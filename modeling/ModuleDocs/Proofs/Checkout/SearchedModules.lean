import ModuleDocs.Proofs.Checkout.FoundModules
import ModuleDocs.Proofs.Files.Listing
import ModuleDocs.Proofs.Text.LineEnds

/-! # Searching, detecting and reading modules

    The tree is gone through in three ways: a search goes by the files below
    a directory and takes the directories that they are in, detection looks
    at the entries of one directory, and reading goes through the same
    entries in the order of their names.  All three agree on what a module
    is.  A search finds the directories that are detected and are not
    excluded, and what is found can be read and has files.

    The paths must not be too long for that.  A search goes down into every
    directory, those that it is to leave out too, and asks of every path that
    it meets whether a file is there.  One path that is too long ends it. -/

namespace ModuleDocs

open Text

section Steps

variable {ε α β : Type} {as : List α}

/-- Steps that do not fail decide whether there is a member. -/
theorem List.anyM_eq_ok {f : α → Except ε Bool} {g : α → Bool}
    (h : ∀ a ∈ as, f a = .ok (g a)) : as.anyM f = .ok (as.any g) := by
  induction as with
  | nil => rfl
  | cons a as ih =>
      rw [List.anyM, h a List.mem_cons_self, List.any_cons]
      cases hg : g a with
      | true => rfl
      | false => exact ih fun b hb => h b (List.mem_cons_of_mem a hb)

/-- Steps that do not fail give what each of them gives. -/
theorem List.filterMapM_eq_ok {f : α → Except ε (Option β)} {g : α → Option β}
    (h : ∀ a ∈ as, f a = .ok (g a)) : as.filterMapM f = .ok (as.filterMap g) := by
  induction as with
  | nil => rfl
  | cons a as ih =>
      rw [List.filterMapM_cons, h a List.mem_cons_self, List.filterMap_cons,
        ih fun b hb => h b (List.mem_cons_of_mem a hb)]
      cases hg : g a <;> rfl

end Steps

namespace Path

/-- One path comes before another, name by name. -/
def IsBefore (p q : Path) : Prop := List.Lex Precedes p.names q.names

/-- The order in which paths are sorted is the order name by name. -/
theorem lex_of_namesLe {s t : List Text} (h : namesLe s t = true) (hne : s ≠ t) :
    List.Lex Precedes s t := by
  induction s generalizing t with
  | nil =>
      cases t with
      | nil => exact absurd rfl hne
      | cons b t => exact .nil
  | cons a s ih =>
      cases t with
      | nil => exact nomatch h
      | cons b t =>
          rcases namesLe_cons_cons.mp h with ⟨hab, hle⟩ | ⟨rfl, hle⟩
          · exact .rel (precedes_of_le hle hab)
          · exact .cons (ih hle fun heq => hne (congrArg (a :: ·) heq))

/-- Different ways down from a directory, sorted, stand in the order name by name. -/
theorem pairwise_sort_below (p : Path) {ways : List (List Text)} (h : ways.Nodup) :
    ((ways.map p.below).mergeSort le).Pairwise IsBefore := by
  have hsorted : ((ways.map p.below).mergeSort le).Pairwise fun q r => le q r = true :=
    @List.pairwise_mergeSort Path le (fun _ _ _ => namesLe_trans)
      (fun q r => namesLe_total q.names r.names) _
  have hdistinct : ((ways.map p.below).map (·.names)).Nodup := by
    rw [List.map_map]
    exact h.map fun _ _ heq => List.append_cancel_left heq
  have hnames : (((ways.map p.below).mergeSort le).map (·.names)).Nodup :=
    ((List.mergeSort_perm _ _).map _).nodup_iff.mpr hdistinct
  exact (hsorted.and (List.pairwise_map.mp hnames)).imp fun h => lex_of_namesLe h.1 h.2

/-- An entry of a directory further down. -/
theorem child_below (p : Path) (names : List Text) (name : Text) :
    (p.below names).child name = p.below (names ++ [name]) := by
  unfold child below
  rw [List.append_assoc]

end Path

theorem Tree.byteCount_child {p : Path} (hne : p.names ≠ []) (name : Text) :
    Tree.byteCount (p.child name).toText = Tree.byteCount p.toText + 1 + Tree.byteCount name := by
  rw [Path.toText_child hne]
  show (utf8 (p.toText ++ (['/'] ++ name))).length = _
  rw [utf8_append, utf8_append, List.length_append, List.length_append]
  exact (Nat.add_assoc _ _ _).symm

/-- Whether something stands at or below a directory whose path is too long. -/
def Tree.HasTooLong (t : Tree) (l : Location) (p : Path) : Prop :=
  ∃ names, t.node? (l ++ names) ≠ none ∧ Tree.isTooLong (p.below names) = true

namespace CheckoutOptions

/-- Whether a path that a text can give leads to a directory at `l`, and the paths of the entries
there are short enough to look at them. -/
structure IsReached (w : Workspace) (p : Path) (l : Location) : Prop where
  plain : p.IsPlain
  there : directoryAt? w p = .ok (some l)
  short : ∀ name ∈ w.tree.namesIn l, Tree.isTooLong (p.child name) = false

/-- Whether a module that stands at `l` has a file of the given name and bytes: the file is in the
directory, and its name is one that a pattern matches. -/
structure HasFile (o : CheckoutOptions) (t : Tree) (l : Location) (name : Text)
    (bytes : List UInt8) : Prop where
  node : t.node? (l ++ [name]) = some (.file bytes)
  matched : ∃ pattern ∈ o.filePatterns, matchesGlob pattern name = true

/-- Whether `files` are the files of a module that stands at `l`, decoded, in the order of their
names. -/
structure IsReading (o : CheckoutOptions) (t : Tree) (l : Location) (e : Encoding)
    (files : List (Text × Text)) : Prop where
  ordered : (files.map (·.1)).Pairwise Precedes
  members : ∀ name text, (name, text) ∈ files ↔
    ∃ bytes, o.HasFile t l name bytes ∧ Text.ofFile e bytes = .ok text

variable {o : CheckoutOptions} {t : Tree} {l : Location} {w : Workspace} {p : Path}
  {e : Encoding} {name : Text} {names : List Text}

theorem HasFile.isDirectory {bytes : List UInt8} (h : o.HasFile t l name bytes) :
    t.isDirectory l = true :=
  @Tree.isDirectory_above t l name [] (by simp [h.node])

theorem accepts_iff (h : o.filePatterns ≠ []) :
    o.accepts name = true ↔ ∃ pattern ∈ o.filePatterns, matchesGlob pattern name = true := by
  rw [accepts, patterns, if_neg h, List.any_eq_true]

/-- With names given, a way is searched when none of them is on it. -/
theorem isExcluded_eq_false_iff (h : o.excludeDirs ≠ []) :
    o.isExcluded names = false ↔ ∀ name ∈ names, name ∉ o.excludeDirs := by
  rw [isExcluded, excluded, if_neg h, List.any_eq_false]
  simp

/-! ## Detection -/

/-- A directory that is reached is detected when it has a file of a module. -/
theorem IsReached.detect_iff (h : IsReached w p l) (hpatterns : o.filePatterns ≠ []) :
    o.detect w p.toText = .ok true ↔ ∃ name bytes, o.HasFile w.tree l name bytes := by
  have hany : o.detect w p.toText
      = .ok ((w.tree.namesIn l).any fun name =>
          !w.tree.isDirectory (l ++ [name]) && o.accepts name) := by
    unfold detect
    dsimp only
    rw [h.plain.ofText_toText, h.there]
    refine List.anyM_eq_ok fun name hname => ?_
    rw [isModuleFile, h.short name hname, if_neg Bool.false_ne_true]
  rw [hany, Except.ok.injEq, List.any_eq_true]
  constructor
  · rintro ⟨name, hname, hfile⟩
    obtain ⟨hnot, haccepted⟩ := Bool.and_eq_true_iff.mp hfile
    obtain ⟨node, hnode⟩ := Option.ne_none_iff_exists'.mp (Tree.mem_namesIn_iff.mp hname)
    cases node with
    | directory => simp [Tree.isDirectory, hnode] at hnot
    | file bytes => exact ⟨name, bytes, hnode, (accepts_iff hpatterns).mp haccepted⟩
  · rintro ⟨name, bytes, hnode, hmatched⟩
    refine ⟨name, Tree.mem_namesIn_iff.mpr (by simp [hnode]), ?_⟩
    simp [Tree.isDirectory, hnode, (accepts_iff hpatterns).mpr hmatched]

/-! ## Reading -/

/-- What a name in the directory at `l` gives to the files of a module, when that can be read. -/
def fileText? (o : CheckoutOptions) (t : Tree) (l : Location) (e : Encoding) (name : Text) :
    Option (Text × Text) :=
  match t.node? (l ++ [name]) with
  | some (.file bytes) =>
    if o.accepts name then (Text.ofFile e bytes).toOption.map fun text => (name, text) else none
  | _ => none

theorem fileText?_eq_some_iff (hpatterns : o.filePatterns ≠ []) {file : Text × Text} :
    o.fileText? t l e name = some file ↔
      file.1 = name ∧ ∃ bytes, o.HasFile t l name bytes ∧ Text.ofFile e bytes = .ok file.2 := by
  unfold fileText?
  constructor
  · intro h
    split at h
    · next bytes hnode =>
        split at h
        · next haccepted =>
            obtain ⟨text, htext, rfl⟩ := Option.map_eq_some_iff.mp h
            refine ⟨rfl, bytes, ⟨hnode, (accepts_iff hpatterns).mp haccepted⟩, ?_⟩
            cases hfile : Text.ofFile e bytes with
            | error fault =>
                rw [hfile] at htext
                exact nomatch htext
            | ok found =>
                rw [hfile] at htext
                exact congrArg Except.ok (Option.some.inj htext)
        · exact nomatch h
    · exact nomatch h
  · obtain ⟨first, text⟩ := file
    rintro ⟨rfl, bytes, ⟨hnode, hmatched⟩, htext⟩
    dsimp only at hnode hmatched htext ⊢
    rw [hnode]
    dsimp only
    rw [if_pos ((accepts_iff hpatterns).mpr hmatched), htext]
    rfl

/-- An entry of a directory that is reached is read, when it can be decoded if it is a file of the
module. -/
theorem IsReached.readEntry_eq_ok (h : IsReached w p l) (hstored : w.tree.IsStored)
    (hpatterns : o.filePatterns ≠ []) (hname : name ∈ w.tree.namesIn l)
    (he : Encoding.ofName o.encoding = .ok e)
    (hdecodes : ∀ bytes, o.HasFile w.tree l name bytes → ∃ text, Text.ofFile e bytes = .ok text) :
    o.readEntry w l p name = .ok (o.fileText? w.tree l e name) := by
  obtain ⟨node, hnode⟩ := Option.ne_none_iff_exists'.mp (Tree.mem_namesIn_iff.mp hname)
  unfold readEntry isModuleFile fileText?
  rw [h.short name hname, if_neg Bool.false_ne_true, hnode, Tree.isDirectory, hnode]
  cases node with
  | directory => rfl
  | file bytes =>
      cases haccepts : o.accepts name with
      | false => rfl
      | true =>
          obtain ⟨text, htext⟩ := hdecodes bytes ⟨hnode, (accepts_iff hpatterns).mp haccepts⟩
          obtain ⟨hway, hd⟩ := locate_of_directoryAt? h.there
          -- neither the path nor the name is too long, so the path leads to the entry
          have hbytes : ¬ 255 < Tree.byteCount name := by
            have hway : w.tree.node? (l ++ [name]) ≠ none := by simp [hnode]
            exact Nat.not_lt.mpr (hstored.byteCount_le hway name (by simp))
          have hchild : w.tree.locate w.cwd (p.child name) = .ok (l ++ [name]) := by
            rw [Tree.locate_child hway hd (Tree.isFileName_of_mem_namesIn hname),
              if_neg (by simp [h.short name hname, hbytes])]
          have hbytesRead : w.tree.read w.cwd (p.child name) = .ok bytes := by
            unfold Tree.read
            rw [hchild]
            dsimp only
            rw [hnode]
          have hread : o.readFile w (p.child name) = .ok text := by
            unfold readFile Workspace.readText Tree.readText
            rw [he, hbytesRead]
            show (Text.ofFile e bytes).mapError TextFileError.decode = .ok text
            rw [htext]
            rfl
          rw [hread]
          show Except.ok (some (name, text))
            = Except.ok ((Text.ofFile e bytes).toOption.map fun text => (name, text))
          rw [htext]
          rfl

/-- A directory that is reached is read, when the files of its module can be decoded. -/
theorem IsReached.readFiles_eq_ok (h : IsReached w p l) (hstored : w.tree.IsStored)
    (hpatterns : o.filePatterns ≠ []) (he : Encoding.ofName o.encoding = .ok e)
    (hdecodes : ∀ name bytes, o.HasFile w.tree l name bytes →
      ∃ text, Text.ofFile e bytes = .ok text) :
    ∃ files, o.readFiles w p.toText = .ok files ∧ o.IsReading w.tree l e files := by
  refine ⟨(sort (w.tree.namesIn l)).filterMap (o.fileText? w.tree l e), ?_, ?_, ?_⟩
  · rw [readFiles_eq, h.plain.ofText_toText, h.there]
    exact List.filterMapM_eq_ok fun name hname =>
      h.readEntry_eq_ok hstored hpatterns (mem_sort.mp hname) he (hdecodes name)
  -- names are not repeated in a directory, so sorting puts each strictly before the next
  · have hsorted := pairwise_precedes_sort (w.tree.nodup_namesIn l)
    rw [List.pairwise_map, List.pairwise_filterMap]
    refine hsorted.imp fun hbefore file hfile file' hfile' => ?_
    rw [((fileText?_eq_some_iff hpatterns).mp hfile).1,
      ((fileText?_eq_some_iff hpatterns).mp hfile').1]
    exact hbefore
  · intro name text
    rw [List.mem_filterMap]
    constructor
    · rintro ⟨found, -, hfile⟩
      obtain ⟨rfl, bytes, hfile, htext⟩ := (fileText?_eq_some_iff hpatterns).mp hfile
      exact ⟨bytes, hfile, htext⟩
    · rintro ⟨bytes, hfile, htext⟩
      have hname : name ∈ w.tree.namesIn l := Tree.mem_namesIn_iff.mpr (by simp [hfile.node])
      exact ⟨name, mem_sort.mpr hname,
        (fileText?_eq_some_iff hpatterns).mpr ⟨rfl, bytes, hfile, htext⟩⟩

/-! ## Searching -/

/-- Below a directory, a search goes by the directories that have a file of a module, where no
excluded name is on the way. -/
theorem mem_moduleNames_iff (hstored : t.IsStored) (hpatterns : o.filePatterns ≠ [])
    (hd : t.isDirectory l = true) :
    names ∈ o.moduleNames t l ↔
      (∃ name bytes, o.HasFile t (l ++ names) name bytes) ∧ o.isExcluded names = false := by
  unfold moduleNames
  rw [List.mem_eraseDups, List.mem_filterMap]
  constructor
  · rintro ⟨⟨way, bytes⟩, hfile, hway⟩
    have hnode := hstored.mem_filesBelow_iff.mp hfile
    -- the directory itself is no file, so there is a last name
    have hne : way ≠ [] := by
      rintro rfl
      rw [List.append_nil, of_decide_eq_true hd] at hnode
      exact nomatch hnode
    dsimp only at hway
    split at hway
    · next hwanted =>
        obtain rfl := Option.some.inj hway
        obtain ⟨haccepted, hsearched⟩ := Bool.and_eq_true_iff.mp hwanted
        rw [List.getLast?_eq_some_getLast hne, Option.getD_some, accepts_iff hpatterns] at haccepted
        rw [← List.dropLast_concat_getLast hne, ← List.append_assoc] at hnode
        exact ⟨⟨_, bytes, hnode, haccepted⟩, by simpa using hsearched⟩
    · exact nomatch hway
  · rintro ⟨⟨name, bytes, hnode, hmatched⟩, hsearched⟩
    rw [List.append_assoc] at hnode
    refine ⟨(names ++ [name], bytes), hstored.mem_filesBelow_iff.mpr hnode, ?_⟩
    dsimp only
    rw [List.getLast?_concat, Option.getD_some, List.dropLast_concat,
      (accepts_iff hpatterns).mpr hmatched, hsearched]
    rfl

/-- Where no path is too long, the directories at and below one that is there are reached. -/
theorem isReached_below (hplain : p.IsPlain) (hl : directoryAt? w p = .ok (some l))
    (hstored : w.tree.IsStored) (hshort : ¬ w.tree.HasTooLong l p)
    (hd : w.tree.isDirectory (l ++ names) = true) : IsReached w (p.below names) (l ++ names) := by
  have hpath : ∀ names, w.tree.node? (l ++ names) ≠ none → Tree.isTooLong (p.below names) = false :=
    fun names hnode => Bool.eq_false_iff.mpr fun hlong => hshort ⟨names, hnode, hlong⟩
  have hnode : w.tree.node? (l ++ names) ≠ none := by simp [of_decide_eq_true hd]
  constructor
  · exact hplain.below fun name hname =>
      w.tree.isFileName_of_node? hnode name (List.mem_append_right l hname)
  · unfold directoryAt?
    rw [hstored.locate_down (locate_of_directoryAt? hl).1 hd (hpath names hnode)]
    dsimp only
    rw [if_pos hd]
  · intro name hname
    rw [Path.child_below]
    exact hpath (names ++ [name]) (List.append_assoc l _ _ ▸ Tree.mem_namesIn_iff.mp hname)

/-- The path that ends a search is too long, and something stands there below the directory. -/
theorem exists_of_tooLongBelow? {q : Path} (h : tooLongBelow? t l p = some q) :
    ∃ names, q = p.below names ∧ t.node? (l ++ names) ≠ none ∧ Tree.isTooLong q = true := by
  unfold tooLongBelow? at h
  dsimp only at h
  have hmem := List.mem_of_head? h
  rw [List.mem_mergeSort, List.mem_filter, List.mem_filterMap] at hmem
  obtain ⟨⟨⟨k, node⟩, hentry, hbelow⟩, hlong⟩ := hmem
  dsimp only at hbelow
  split at hbelow
  · next hk =>
      simp only [Tree.isAtOrBelow, Bool.and_eq_true, decide_eq_true_eq] at hk
      obtain ⟨⟨names, rfl⟩, hne⟩ := hk
      have hroot : l ++ names ≠ [] := fun hnil =>
        hne (by rw [hnil, (List.append_eq_nil_iff.mp hnil).1])
      have hnode := (Tree.mem_entries_iff hroot).mp hentry
      rw [List.drop_left] at hbelow
      exact ⟨names, (Option.some.inj hbelow).symm, by simp [hnode], hlong⟩
  · exact nomatch hbelow

/-- When no path ends a search, none is too long. -/
theorem not_hasTooLong_of_tooLongBelow? (hp : Tree.isTooLong p = false)
    (h : tooLongBelow? t l p = none) : ¬ t.HasTooLong l p := by
  rintro ⟨names, hnode, hlong⟩
  by_cases hnames : names = []
  · rw [hnames, Path.below, List.append_nil] at hlong
    exact Bool.false_ne_true (hp.symm.trans hlong)
  · have hkey := Tree.mem_keys_of_node? (List.append_ne_nil_of_right_ne_nil l hnames) hnode
    have hbelow : Tree.isAtOrBelow l (l ++ names) = true :=
      decide_eq_true (List.prefix_append l names)
    have hshort := isTooLong_of_tooLongBelow? h hkey hbelow (by simpa using hnames)
    rw [List.drop_left] at hshort
    exact Bool.false_ne_true (hshort.symm.trans hlong)

/-- A search ends when something stands at a path that is too long. -/
theorem moduleDirectories_of_hasTooLong {base : Text}
    (hbase : directoryAt? w (.ofText base) = .ok (some l))
    (hlong : w.tree.HasTooLong l (.ofText base)) :
    ∃ names, w.tree.node? (l ++ names) ≠ none ∧
      Tree.isTooLong ((Path.ofText base).below names) = true ∧
      o.moduleDirectories w base = pure (.error (tooLong ((Path.ofText base).below names))) := by
  have hp := Tree.isTooLong_of_locate (locate_of_directoryAt? hbase).1
  cases hfirst : tooLongBelow? w.tree l (.ofText base) with
  | none => exact absurd hlong (not_hasTooLong_of_tooLongBelow? hp hfirst)
  | some q =>
      obtain ⟨names, rfl, hnode, hq⟩ := exists_of_tooLongBelow? hfirst
      refine ⟨names, hnode, hq, ?_⟩
      simp only [moduleDirectories, hbase, hfirst]

variable {base : Text}

/-- A directory at or below the one that is searched is among the modules there when it is detected
and no excluded name is on the way to it. -/
theorem mem_moduleNames_iff_detect (hstored : w.tree.IsStored) (hpatterns : o.filePatterns ≠ [])
    (hexcluded : o.excludeDirs ≠ []) (hplain : p.IsPlain) (hl : directoryAt? w p = .ok (some l))
    (hshort : ¬ w.tree.HasTooLong l p) :
    names ∈ o.moduleNames w.tree l ↔ w.tree.isDirectory (l ++ names) = true ∧
      o.detect w (p.below names).toText = .ok true ∧ ∀ name ∈ names, name ∉ o.excludeDirs := by
  rw [mem_moduleNames_iff hstored hpatterns (locate_of_directoryAt? hl).2,
    isExcluded_eq_false_iff hexcluded]
  constructor
  · rintro ⟨⟨name, bytes, hfile⟩, hsearched⟩
    have hreached := isReached_below hplain hl hstored hshort hfile.isDirectory
    exact ⟨hfile.isDirectory, (hreached.detect_iff hpatterns).mpr ⟨name, bytes, hfile⟩, hsearched⟩
  · rintro ⟨hd, hdetect, hsearched⟩
    have hreached := isReached_below hplain hl hstored hshort hd
    exact ⟨(hreached.detect_iff hpatterns).mp hdetect, hsearched⟩

/-- A search of a directory finds, in order and once each, the modules at or below it that are
detected and not excluded; each of them has files, and they are read when they can be decoded.  When
a path below the directory is too long, the search ends with an error about such a path. -/
theorem moduleDirectories_detected (hstored : w.tree.IsStored) (hpatterns : o.filePatterns ≠ [])
    (hexcluded : o.excludeDirs ≠ []) (hbase : directoryAt? w (.ofText base) = .ok (some l)) :
    (w.tree.HasTooLong l (.ofText base) →
      ∃ names, w.tree.node? (l ++ names) ≠ none ∧
        Tree.isTooLong ((Path.ofText base).below names) = true ∧
        o.moduleDirectories w base = pure (.error (tooLong ((Path.ofText base).below names)))) ∧
    (¬ w.tree.HasTooLong l (.ofText base) →
      ∃ found, o.moduleDirectories w base = pure (.ok found) ∧
        found.Pairwise Path.IsBefore ∧
        (∀ d, d ∈ found ↔ ∃ names, d = (Path.ofText base).below names ∧
          w.tree.isDirectory (l ++ names) = true ∧ o.detect w d.toText = .ok true ∧
          ∀ name ∈ names, name ∉ o.excludeDirs) ∧
        ∀ names, (Path.ofText base).below names ∈ found →
          ∀ e, Encoding.ofName o.encoding = .ok e →
          (∀ name bytes, o.HasFile w.tree (l ++ names) name bytes →
            ∃ text, Text.ofFile e bytes = .ok text) →
          ∃ files, o.readFiles w ((Path.ofText base).below names).toText = .ok files ∧
            files ≠ [] ∧ o.IsReading w.tree (l ++ names) e files) := by
  have hplain := Path.isPlain_ofText base
  constructor
  · exact moduleDirectories_of_hasTooLong hbase
  · intro hshort
    have hfirst : tooLongBelow? w.tree l (.ofText base) = none := by
      refine Option.eq_none_iff_forall_ne_some.mpr fun q hq => ?_
      obtain ⟨names, rfl, hnode, hlong⟩ := exists_of_tooLongBelow? hq
      exact hshort ⟨names, hnode, hlong⟩
    -- the names that the search keeps are those that detection accepts
    have hmodules := fun names =>
      @mem_moduleNames_iff_detect o l w _ names hstored hpatterns hexcluded hplain hbase hshort
    refine ⟨((o.moduleNames w.tree l).map (Path.ofText base).below).mergeSort Path.le, ?_,
      Path.pairwise_sort_below _ (nodup_eraseDups _), fun d => ?_, ?_⟩
    · simp only [moduleDirectories, hbase, hfirst]
    · rw [List.mem_mergeSort, List.mem_map]
      constructor
      · rintro ⟨names, hnames, rfl⟩
        exact ⟨names, rfl, (hmodules names).mp hnames⟩
      · rintro ⟨names, rfl, hnames⟩
        exact ⟨names, (hmodules names).mpr hnames, rfl⟩
    -- what is found is detected, so it has a file, and that file is read
    · intro names hfound e he hdecodes
      rw [List.mem_mergeSort, List.mem_map] at hfound
      obtain ⟨way, hway, heq⟩ := hfound
      obtain rfl : way = names := List.append_cancel_left (Path.mk.inj heq).2
      obtain ⟨hd, hdetect, -⟩ := (hmodules way).mp hway
      have hreached := isReached_below hplain hbase hstored hshort hd
      obtain ⟨name, bytes, hfile⟩ := (hreached.detect_iff hpatterns).mp hdetect
      obtain ⟨text, htext⟩ := hdecodes name bytes hfile
      obtain ⟨files, hread, hfiles⟩ := hreached.readFiles_eq_ok hstored hpatterns he hdecodes
      have hne : files ≠ [] :=
        List.ne_nil_of_mem ((hfiles.members name text).mpr ⟨bytes, hfile, htext⟩)
      exact ⟨files, hread, hne, hfiles⟩

/-- A checkout with modules in a module, below a directory that is called like a file, and in a
directory that is not searched. -/
def nestedCheckout : Workspace where
  tree :=
    ((((((Tree.empty.put ["a"] .directory (by decide +kernel)).put
      ["a", "main.tf"] (.file (utf8 "x = 1")) (by decide +kernel)).put
      ["a", "b"] .directory (by decide +kernel)).put
      ["a", "b", "c.tf"] .directory (by decide +kernel)).put
      ["a", "b", "c.tf", "main.tf"] (.file []) (by decide +kernel)).put
      ["a", "vendor"] .directory (by decide +kernel)).put
      ["a", "vendor", "main.tf"] (.file []) (by decide +kernel)
  cwd := []
  git := .silent
  chat := fun _ => .noChoices

/-- Options that look for one kind of file and leave one kind of directory out. -/
def searchOptions : CheckoutOptions := { filePatterns := ["*.tf"], excludeDirs := ["vendor"] }

theorem isStored_nestedCheckout : nestedCheckout.tree.IsStored where
  root := by decide +kernel
  names := by decide +kernel

/-- The same options, for files in the encoding of the surroundings. -/
def localeOptions : CheckoutOptions := { searchOptions with encoding := "locale" }

/-- The one file of the module at the top can be decoded. -/
theorem decodes_nestedCheckout (name : Text) (bytes : List UInt8)
    (h : localeOptions.HasFile nestedCheckout.tree ["a"] name bytes) :
    ∃ text, Text.ofFile .utf8 bytes = .ok text := by
  have hname : name ∈ nestedCheckout.tree.namesIn ["a"] :=
    Tree.mem_namesIn_iff.mpr (Option.ne_none_iff_exists'.mpr ⟨_, h.node⟩)
  have hnames : nestedCheckout.tree.namesIn ["a"]
      = ["main.tf".toList, "b".toList, "vendor".toList] := by decide +kernel
  simp only [hnames, List.mem_cons, List.not_mem_nil, or_false] at hname
  rcases hname with rfl | rfl | rfl
  · have hnode : nestedCheckout.tree.node? ["a", "main.tf"] = some (.file (utf8 "x = 1")) := by
      decide +kernel
    obtain rfl := Node.file.inj (Option.some.inj (hnode.symm.trans h.node))
    exact ⟨"x = 1", rfl⟩
  · have hnode : nestedCheckout.tree.node? ["a", "b"] = some .directory := by decide +kernel
    cases hnode.symm.trans h.node
  · have hnode : nestedCheckout.tree.node? ["a", "vendor"] = some .directory := by
      decide +kernel
    cases hnode.symm.trans h.node

/-- Two of the directories are found, and the file of the first one is read. -/
theorem moduleDirectories_detected_nested :
    ∃ found, localeOptions.moduleDirectories nestedCheckout "a" = pure (.ok found) ∧
      found.Pairwise Path.IsBefore ∧
      Path.ofText "a" ∈ found ∧ Path.ofText "a/b" ∉ found ∧ Path.ofText "a/b/c.tf" ∈ found ∧
      Path.ofText "a/vendor" ∉ found ∧
      ∃ files, localeOptions.readFiles nestedCheckout "a" = .ok files ∧ files ≠ [] ∧
        ("main.tf".toList, "x = 1".toList) ∈ files := by
  have hbase : directoryAt? nestedCheckout (.ofText "a") = .ok (some ["a"]) := by decide +kernel
  have hshort : ¬ nestedCheckout.tree.HasTooLong ["a"] (.ofText "a") :=
    not_hasTooLong_of_tooLongBelow? (by decide +kernel) (by decide +kernel)
  obtain ⟨found, hsearch, hordered, hfound, hread⟩ :=
    (moduleDirectories_detected isStored_nestedCheckout (o := localeOptions) (by decide) (by decide)
      hbase).2 hshort
  have htop : Path.ofText "a" ∈ found :=
    (hfound _).mpr ⟨[], by decide +kernel, by decide +kernel, by decide +kernel, by decide⟩
  refine ⟨found, hsearch, hordered, htop, fun hd => ?_, ?_, fun hd => ?_, ?_⟩
  · obtain ⟨names, -, -, hdetect, -⟩ := (hfound _).mp hd
    revert hdetect
    decide +kernel
  · exact (hfound _).mpr
      ⟨["b", "c.tf"], by decide +kernel, by decide +kernel, by decide +kernel, by decide⟩
  · obtain ⟨names, hway, -, -, hsearched⟩ := (hfound _).mp hd
    have hnames : names = ["vendor".toList] := by
      have hall : ["a".toList] ++ ["vendor".toList] = ["a".toList] ++ names := (Path.mk.inj hway).2
      exact (List.append_cancel_left hall).symm
    exact hsearched "vendor" (by rw [hnames]; decide) (by decide)
  · obtain ⟨files, hfiles, hne, hreading⟩ := hread [] htop .utf8 rfl decodes_nestedCheckout
    have hfile : localeOptions.HasFile nestedCheckout.tree ["a"] "main.tf" (utf8 "x = 1") :=
      ⟨by decide +kernel, "*.tf", by decide, by decide +kernel⟩
    exact ⟨files, hfiles, hne, (hreading.members _ _).mpr ⟨_, hfile, rfl⟩⟩

/-! ## A path that is too long -/

/-- The path of a directory `m` that goes up from it and down to it again, so many times. -/
def loops : Nat → Path
  | 0 => ⟨[], [['m']]⟩
  | k + 1 => ((loops k).child ['.', '.']).child ['m']

theorem loops_root (k : Nat) : (loops k).root = [] := by
  induction k with
  | zero => rfl
  | succ k ih => exact ih

theorem loops_names_ne_nil (k : Nat) : (loops k).names ≠ [] := by
  cases k with
  | zero => exact List.cons_ne_nil _ _
  | succ k => exact List.concat_ne_nil _ _

/-- The names of such a path are the one of the directory and two dots. -/
theorem eq_of_mem_loops {k : Nat} (h : name ∈ (loops k).names) :
    name = ['m'] ∨ name = ['.', '.'] := by
  induction k with
  | zero => exact .inl (List.mem_singleton.mp h)
  | succ k ih =>
      rcases List.mem_append.mp h with h | h
      · rcases List.mem_append.mp h with h | h
        · exact ih h
        · exact .inr (List.mem_singleton.mp h)
      · exact .inl (List.mem_singleton.mp h)

theorem isPlain_loops (k : Nat) : (loops k).IsPlain where
  root := .inl (loops_root k)
  names := by
    intro name hname
    rcases eq_of_mem_loops hname with rfl | rfl <;> decide

/-- Each turn takes five bytes. -/
theorem byteCount_loops (k : Nat) : Tree.byteCount (loops k).toText = 5 * k + 1 := by
  induction k with
  | zero => rfl
  | succ k ih =>
      rw [loops, Tree.byteCount_child (List.concat_ne_nil _ _),
        Tree.byteCount_child (loops_names_ne_nil k), ih]
      show 5 * k + 1 + 1 + 2 + 1 + 1 = 5 * (k + 1) + 1
      omega

/-- All turns lead to the same directory. -/
theorem walk_loops (hd : t.isDirectory [['m']] = true) (k : Nat) :
    t.walk [] (loops k).names = .ok [['m']] := by
  have hnode : t.node? [['m']] = some .directory := of_decide_eq_true hd
  induction k with
  | zero => rfl
  | succ k ih =>
      have hturn : t.walk [['m']] [['.', '.'], ['m']] = .ok [['m']] := by
        rw [Tree.walk, hnode]
        rfl
      show t.walk [] ((loops k).names ++ [['.', '.']] ++ [['m']]) = _
      rw [List.append_assoc, Tree.walk_append ih]
      exact hturn

/-- Unless there are too many turns, the path leads to the directory. -/
theorem directoryAt?_loops (hcwd : w.cwd = []) (hd : w.tree.isDirectory [['m']] = true) {k : Nat}
    (hk : k < 819) : directoryAt? w (loops k) = .ok (some [['m']]) := by
  have hnull : (loops k).hasNull = false := by
    refine List.any_eq_false.mpr fun name hname => ?_
    rcases eq_of_mem_loops hname with rfl | rfl <;> decide
  have hshort : Tree.isTooLong (loops k) = false := by
    rw [Tree.isTooLong, byteCount_loops]
    exact decide_eq_false (by omega)
  have hway : w.tree.locate w.cwd (loops k) = .ok [['m']] := by
    unfold Tree.locate
    rw [hnull, hshort, hcwd, ite_self, walk_loops hd]
    rfl
  unfold directoryAt?
  rw [hway]
  dsimp only
  rw [if_pos hd]

/-- A checkout with a module, and below it a file in a directory that is to be left out. -/
def shallowCheckout : Workspace where
  tree :=
    (((Tree.empty.put [['m']] .directory (by decide +kernel)).put
      [['m'], "main.tf"] (.file []) (by decide +kernel)).put
      [['m'], "vendor"] .directory (by decide +kernel)).put
      [['m'], "vendor", "x.md"] (.file []) (by decide +kernel)
  cwd := []
  git := .silent
  chat := fun _ => .noChoices

theorem isStored_shallowCheckout : shallowCheckout.tree.IsStored where
  root := by decide +kernel
  names := by decide +kernel

/-- Whether a path below the directory is too long depends on its turns. -/
theorem isTooLong_loops_child (k : Nat) (name : Text) :
    Tree.isTooLong ((loops k).child name) = decide (4094 < 5 * k + 1 + Tree.byteCount name) := by
  rw [Tree.isTooLong, Tree.byteCount_child (loops_names_ne_nil k), byteCount_loops]
  exact decide_eq_decide.mpr (by omega)

/-- By a path that is almost too long a module is detected and not found.  The search goes down
into the directory that it is to leave out, and ends at a file there whose path is too long. -/
theorem detected_not_found :
    shallowCheckout.tree.IsStored ∧
    directoryAt? shallowCheckout (.ofText (loops 817).toText) = .ok (some [['m']]) ∧
    searchOptions.detect shallowCheckout (loops 817).toText = .ok true ∧
    ∃ q, searchOptions.moduleDirectories shallowCheckout (loops 817).toText
      = pure (.error (tooLong q)) := by
  -- only how many turns there are matters; the path itself is long
  generalize hk : 817 = k
  have hpath := (isPlain_loops k).ofText_toText
  have hbase : directoryAt? shallowCheckout (loops k) = .ok (some [['m']]) :=
    directoryAt?_loops rfl (by decide +kernel) (by omega)
  have hreached : IsReached shallowCheckout (loops k) [['m']] := by
    refine ⟨isPlain_loops k, hbase, fun name hname => ?_⟩
    have hnames : ∀ name ∈ shallowCheckout.tree.namesIn [['m']], Tree.byteCount name ≤ 7 := by
      decide +kernel
    have hname := hnames name hname
    rw [isTooLong_loops_child]
    exact decide_eq_false (by omega)
  have hlong : shallowCheckout.tree.HasTooLong [['m']] (loops k) := by
    have hfile : (loops k).below ["vendor", "x.md"]
        = ((loops k).child "vendor").child "x.md" := (Path.child_below _ ["vendor"] _).symm
    have hvendor : Tree.byteCount "vendor" = 6 := by decide +kernel
    have hnotes : Tree.byteCount "x.md" = 4 := by decide +kernel
    refine ⟨["vendor", "x.md"], by decide +kernel, ?_⟩
    rw [hfile, Tree.isTooLong, Tree.byteCount_child (List.concat_ne_nil _ _),
      Tree.byteCount_child (loops_names_ne_nil k), byteCount_loops, hvendor, hnotes]
    exact decide_eq_true (by omega)
  rw [hpath]
  refine ⟨isStored_shallowCheckout, hbase, ?_, ?_⟩
  · exact (hreached.detect_iff (by decide)).mpr
      ⟨"main.tf", [], by decide +kernel, "*.tf", by decide, by decide +kernel⟩
  · rw [← hpath] at hbase hlong
    obtain ⟨names, -, -, hsearch⟩ := moduleDirectories_of_hasTooLong hbase hlong
    exact ⟨_, hsearch⟩

end CheckoutOptions

end ModuleDocs
