import ModuleDocs.Files.Access
import ModuleDocs.Proofs.Text.Compound

/-! # Where paths lead

    A path that was read from a text is read again from its own text, so it
    does not matter whether a directory is handed on as a path or as a text.

    A path that leads anywhere leads to the location that its names spell.
    Whether it does depends on the directories of the tree only: all that a
    file can do is to end the way, and then nobody asks for the reason. -/

namespace ModuleDocs

open Text

namespace Path

/-- Whether a path is one that a text can give: its root is none or one or two slashes, and its
names are neither empty nor a single dot and hold no slash. -/
structure IsPlain (p : Path) : Prop where
  root : p.root = [] ∨ p.root = ['/'] ∨ p.root = ['/', '/']
  names : ∀ name ∈ p.names, name ≠ [] ∧ name ≠ ['.'] ∧ '/' ∉ name

/-- The path of a text is plain. -/
theorem isPlain_ofText (t : Text) : (ofText t).IsPlain := by
  constructor
  · unfold ofText
    dsimp only
    split
    · exact .inl rfl
    · split
      · exact .inr (.inr rfl)
      · exact .inr (.inl rfl)
  · intro name hname
    obtain ⟨hpiece, hkept⟩ := List.mem_filter.mp hname
    simp only [Bool.and_eq_true, decide_eq_true_eq] at hkept
    exact ⟨hkept.1, hkept.2, not_mem_of_mem_pieces hpiece⟩

theorem ne_of_isFileName {name : Text} (h : isFileName name = true) :
    name ≠ [] ∧ name ≠ ['.'] ∧ name ≠ ['.', '.'] ∧ '/' ∉ name ∧ '\x00' ∉ name := by
  simp only [isFileName, Bool.and_eq_true, decide_eq_true_eq, List.all_eq_true] at h
  obtain ⟨⟨⟨hempty, hdot⟩, hdots⟩, hchars⟩ := h
  exact ⟨hempty, hdot, hdots, fun hm => (hchars '/' hm).1 rfl, fun hm => (hchars _ hm).2 rfl⟩

/-- A plain path stays plain when names of files are added. -/
theorem IsPlain.below {p : Path} (hp : p.IsPlain) {names : List Text}
    (hnames : ∀ name ∈ names, isFileName name = true) : (p.below names).IsPlain where
  root := hp.root
  names := by
    intro name hname
    rcases List.mem_append.mp hname with hname | hname
    · exact hp.names name hname
    · obtain ⟨hempty, hdot, -, hslash, -⟩ := ne_of_isFileName (hnames name hname)
      exact ⟨hempty, hdot, hslash⟩

/-- The text of plain names does not begin with a slash. -/
theorem takeWhile_join {names : List Text}
    (h : ∀ name ∈ names, name ≠ [] ∧ name ≠ ['.'] ∧ '/' ∉ name) :
    (join ['/'] names).takeWhile (· = '/') = [] := by
  cases names with
  | nil => rfl
  | cons name names =>
      obtain ⟨hempty, -, hslash⟩ := h name List.mem_cons_self
      obtain ⟨c, name, rfl⟩ := List.exists_cons_of_ne_nil hempty
      have hc : ¬ c = '/' := fun hc => hslash (hc ▸ List.mem_cons_self)
      cases names with
      | nil =>
          have hjoin : join ['/'] [c :: name] = c :: name := List.intercalate_singleton
          rw [hjoin, List.takeWhile_cons, if_neg (by simpa using hc)]
      | cons next names =>
          rw [join_cons_cons, List.append_assoc, List.cons_append, List.takeWhile_cons,
            if_neg (by simpa using hc)]

/-- Plain names are the names in their text. -/
theorem namesIn_join {names : List Text}
    (h : ∀ name ∈ names, name ≠ [] ∧ name ≠ ['.'] ∧ '/' ∉ name) :
    namesIn (join ['/'] names) = names := by
  by_cases hne : names = []
  · subst hne
    rfl
  · rw [namesIn, pieces_join hne fun name hname => (h name hname).2.2]
    refine List.filter_eq_self.mpr fun name hname => ?_
    simp [(h name hname).1, (h name hname).2.1]

/-- A slash before a text adds no name. -/
theorem namesIn_slash (t : Text) : namesIn ('/' :: t) = namesIn t := by
  have hpieces := pieces_append_cons '/' [] t
  rw [List.nil_append] at hpieces
  rw [namesIn, hpieces, pieces, List.singleton_append, List.filter_cons_of_neg (by simp), ← namesIn]

/-- The text of a plain path is read as the path. -/
theorem IsPlain.ofText_toText {p : Path} (hp : p.IsPlain) : ofText p.toText = p := by
  obtain ⟨root, names⟩ := p
  obtain ⟨hroot, hnames⟩ := hp
  dsimp only at hroot hnames
  have hstart := takeWhile_join hnames
  have hread := namesIn_join hnames
  rcases hroot with rfl | rfl | rfl
  · by_cases hempty : names = []
    · subst hempty
      rfl
    · have htext : toText ⟨[], names⟩ = join ['/'] names := by simp [toText, hempty]
      rw [htext, ofText, hstart, hread]
      rfl
  · have htext : toText ⟨['/'], names⟩ = '/' :: join ['/'] names := by simp [toText]
    have hone : ('/' :: join ['/'] names).takeWhile (· = '/') = ['/'] := by
      rw [List.takeWhile_cons_of_pos (by simp), hstart]
    rw [htext, ofText, namesIn_slash, hread, hone]
    rfl
  · have htext : toText ⟨['/', '/'], names⟩ = '/' :: '/' :: join ['/'] names := by simp [toText]
    have htwo : ('/' :: '/' :: join ['/'] names).takeWhile (· = '/') = ['/', '/'] := by
      rw [List.takeWhile_cons_of_pos (by simp), List.takeWhile_cons_of_pos (by simp), hstart]
    rw [htext, ofText, namesIn_slash, namesIn_slash, hread, htwo]
    rfl

/-- The location of an entry of a directory is in the location of the directory. -/
theorem resolve_child {name : Text} (h : name ≠ ['.', '.']) (cwd : Location) (p : Path) :
    (p.child name).resolve cwd = p.resolve cwd ++ [name] := by
  unfold child below resolve
  rw [List.foldl_append, List.foldl_cons, List.foldl_nil, step, if_neg h]
  rfl

/-- The text of an entry of a directory is the text of the directory, a slash, and the name. -/
theorem toText_child {p : Path} (hne : p.names ≠ []) (name : Text) :
    (p.child name).toText = p.toText ++ '/' :: name := by
  have hchild : p.names ++ [name] ≠ [] := List.concat_ne_nil name _
  unfold child below toText
  rw [if_neg fun h => hchild h.2, if_neg fun h => hne h.2, join_concat _ hne]
  simp

end Path

namespace Tree

/-! ## Ways through a tree -/

/-- Names that lead anywhere lead to the location that they spell. -/
theorem eq_of_walk {t : Tree} {l m : Location} {names : List Text} (h : t.walk l names = .ok m) :
    m = names.foldl Path.step l := by
  induction names generalizing l with
  | nil => exact (Except.ok.inj h).symm
  | cons name names ih => exact ih (walk_cons h).2

/-- A path that leads anywhere leads to the location that it spells. -/
theorem eq_of_locate {t : Tree} {cwd l : Location} {p : Path} (h : t.locate cwd p = .ok l) :
    l = p.resolve cwd := by
  unfold locate at h
  split at h
  · exact nomatch h
  · split at h
    · exact nomatch h
    · exact eq_of_walk h

/-- A path that leads anywhere is not too long. -/
theorem isTooLong_of_locate {t : Tree} {cwd l : Location} {p : Path}
    (h : t.locate cwd p = .ok l) : isTooLong p = false := by
  cases hlong : isTooLong p with
  | false => rfl
  | true =>
      rw [locate, hlong] at h
      split at h
      · exact nomatch h
      · exact nomatch h

/-- A name that a way leads through is not too long. -/
theorem byteCount_le_of_walk {t : Tree} {l m : Location} {name : Text} {names : List Text}
    (h : t.walk l (name :: names) = .ok m) : byteCount name ≤ 255 := by
  rw [walk, (walk_cons h).1] at h
  dsimp only at h
  split at h
  · cases h
  · next hshort => exact Nat.not_lt.mp hshort

/-- A longer way goes on where the shorter one leads. -/
theorem walk_append {t : Tree} {l m : Location} {names : List Text} (h : t.walk l names = .ok m)
    (more : List Text) : t.walk l (names ++ more) = t.walk m more := by
  induction names generalizing l with
  | nil =>
      obtain rfl := Except.ok.inj h
      rfl
  | cons name names ih =>
      obtain ⟨hd, hrest⟩ := walk_cons h
      rw [List.cons_append, walk, hd]
      dsimp only
      rw [if_neg (Nat.not_lt.mpr (byteCount_le_of_walk h)), ih hrest]

/-- The way to what stands below a directory goes on from the directory, unless the path is too
long. -/
theorem locate_below {t : Tree} {cwd l : Location} {p : Path} {names : List Text}
    (hl : t.locate cwd p = .ok l) (hnames : ∀ name ∈ names, isFileName name = true) :
    t.locate cwd (p.below names)
      = if isTooLong (p.below names) then .error .nameTooLong else t.walk l names := by
  unfold locate at hl ⊢
  split at hl
  · exact nomatch hl
  · next hnull =>
      split at hl
      · exact nomatch hl
      · have hbelow : (p.below names).hasNull = false := by
          have hnone : ∀ name ∈ names, ¬ name.any (· = '\x00') = true := by
            intro name hname hany
            obtain ⟨-, -, -, -, hzero⟩ := Path.ne_of_isFileName (hnames name hname)
            obtain ⟨c, hc, heq⟩ := List.any_eq_true.mp hany
            exact hzero (of_decide_eq_true heq ▸ hc)
          unfold Path.hasNull at hnull ⊢
          unfold Path.below
          rw [List.any_append, Bool.or_eq_false_iff]
          exact ⟨by simpa using hnull, List.any_eq_false.mpr hnone⟩
        rw [if_neg (by simp [hbelow])]
        have hway : t.walk (if (p.below names).isAbsolute then [] else cwd) (p.below names).names
            = t.walk l names := walk_append hl names
        rw [hway]

/-- The way to an entry of a directory: nothing but its length can keep from it. -/
theorem locate_child {t : Tree} {cwd l : Location} {p : Path} {name : Text}
    (hl : t.locate cwd p = .ok l) (hd : t.isDirectory l = true) (hname : isFileName name = true) :
    t.locate cwd (p.child name)
      = if isTooLong (p.child name) ∨ 255 < byteCount name then .error .nameTooLong
        else .ok (l ++ [name]) := by
  obtain ⟨-, -, hdots, -, -⟩ := Path.ne_of_isFileName hname
  have hdir : t.node? l = some .directory := by simpa [isDirectory] using hd
  have hway := @locate_below t cwd l p [name] hl (by simpa using hname)
  rw [Path.child, hway, walk, hdir]
  dsimp only
  by_cases hlong : isTooLong (p.below [name]) = true
  · rw [if_pos hlong, if_pos (.inl hlong)]
  · rw [if_neg hlong]
    by_cases hbytes : 255 < byteCount name
    · rw [if_pos hbytes, if_pos (.inr hbytes)]
    · rw [if_neg hbytes, if_neg (by simp [hlong, hbytes]), walk, Path.step, if_neg hdots]

/-! ## The same directories -/

/-- Whether two trees have the same directories. -/
def SameDirectories (t t' : Tree) : Prop := ∀ l, t.isDirectory l = t'.isDirectory l

variable {t t' : Tree}

theorem SameDirectories.symm (h : SameDirectories t t') : SameDirectories t' t :=
  fun l => (h l).symm

/-- Where the directories are the same, a way leads to the same place, or is too long, or leads
nowhere. -/
theorem SameDirectories.walk (h : SameDirectories t t') (l : Location) (names : List Text) :
    t.walk l names = t'.walk l names ∨
      ∃ cause cause', t.walk l names = .error cause ∧ t'.walk l names = .error cause' ∧
        cause ≠ .nameTooLong ∧ cause' ≠ .nameTooLong := by
  induction names generalizing l with
  | nil => exact .inl rfl
  | cons name names ih =>
      -- what stands at `l` in one tree, and whether it is a directory in the other
      have hnone : ∀ {u : Tree}, u.isDirectory l = false →
          ∃ cause, u.walk l (name :: names) = .error cause ∧ cause ≠ .nameTooLong := by
        intro u hu
        unfold isDirectory at hu
        cases hn : u.node? l with
        | none => exact ⟨.notFound, by rw [Tree.walk, hn], by decide⟩
        | some n =>
            cases n with
            | file bytes => exact ⟨.notADirectory, by rw [Tree.walk, hn], by decide⟩
            | directory => simp [hn] at hu
      cases hd : t.isDirectory l with
      | true =>
          have hd' : t'.isDirectory l = true := (h l).symm.trans hd
          have hn : t.node? l = some .directory := by simpa [isDirectory] using hd
          have hn' : t'.node? l = some .directory := by simpa [isDirectory] using hd'
          rw [Tree.walk, Tree.walk, hn, hn']
          dsimp only
          by_cases hlong : 255 < byteCount name
          · rw [if_pos hlong, if_pos hlong]
            exact .inl rfl
          · rw [if_neg hlong, if_neg hlong]
            exact ih _
      | false =>
          obtain ⟨cause, hw, hc⟩ := hnone hd
          obtain ⟨cause', hw', hc'⟩ := hnone ((h l).symm.trans hd)
          exact .inr ⟨cause, cause', hw, hw', hc, hc'⟩

/-- Where the directories are the same, a path leads to the same place, or is too long, or leads
nowhere. -/
theorem SameDirectories.locate (h : SameDirectories t t') (cwd : Location) (p : Path) :
    t.locate cwd p = t'.locate cwd p ∨
      ∃ cause cause', t.locate cwd p = .error cause ∧ t'.locate cwd p = .error cause' ∧
        cause ≠ .nameTooLong ∧ cause' ≠ .nameTooLong := by
  unfold Tree.locate
  by_cases hnull : p.hasNull = true
  · rw [if_pos hnull, if_pos hnull]
    exact .inl rfl
  · rw [if_neg hnull, if_neg hnull]
    by_cases hlong : isTooLong p = true
    · rw [if_pos hlong, if_pos hlong]
      exact .inl rfl
    · rw [if_neg hlong, if_neg hlong]
      exact h.walk _ _

/-- A path that leads anywhere leads there whenever the directories are the same. -/
theorem SameDirectories.locate_eq_ok (h : SameDirectories t t') {cwd l : Location} {p : Path}
    (hl : t.locate cwd p = .ok l) : t'.locate cwd p = .ok l := by
  rcases h.locate cwd p with heq | ⟨cause, -, herror, -⟩
  · rw [← heq, hl]
  · exact nomatch hl.symm.trans herror

/-- What is made of a look is the same when the directories are the same and the same is made of
what the places hold. -/
theorem SameDirectories.map_look {β : Type} {f : Option Node → β} {cwd : Location} {p : Path}
    (h : SameDirectories t t') (hf : f (t.node? (p.resolve cwd)) = f (t'.node? (p.resolve cwd))) :
    (t.look cwd p).map f = (t'.look cwd p).map f := by
  unfold Tree.look
  rcases h.locate cwd p with heq | ⟨cause, cause', hl, hl', hc, hc'⟩
  · rw [← heq]
    cases hl : t.locate cwd p with
    | ok l =>
        obtain rfl := eq_of_locate hl
        exact congrArg Except.ok hf
    | error cause => cases cause <;> rfl
  · rw [hl, hl']
    -- neither cause is the one that is reported
    cases cause <;> cases cause' <;> first | rfl | exact absurd rfl hc | exact absurd rfl hc'

/-- Looking finds the same when the directories are the same and the place holds the same. -/
theorem SameDirectories.look (h : SameDirectories t t') {cwd : Location} {p : Path}
    (hnode : t.node? (p.resolve cwd) = t'.node? (p.resolve cwd)) :
    t.look cwd p = t'.look cwd p := by
  have hmap : ∀ x : Except FileError (Option Node), x.map id = x := fun x => by cases x <;> rfl
  rw [← hmap (t.look cwd p), ← hmap (t'.look cwd p)]
  exact h.map_look hnode

theorem SameDirectories.hasDirectory (h : SameDirectories t t') (cwd : Location) (p : Path) :
    t.hasDirectory cwd p = t'.hasDirectory cwd p :=
  h.map_look (h (p.resolve cwd))

/-- Whether a file has room at a location depends on the directories only. -/
theorem SameDirectories.hasRoom (h : SameDirectories t t') {l : Location} (hroom : t.HasRoom l) :
    t'.HasRoom l := by
  obtain ⟨hl, hparent, hfree, hname⟩ := hroom
  have hd : ∀ {u : Tree} {k : Location}, u.isDirectory k = true ↔ u.node? k = some .directory :=
    decide_eq_true_iff
  refine ⟨hl, ?_, ?_, hname⟩
  · rw [← hd, ← h, hd]
    exact hparent
  · rw [ne_eq, ← hd, ← h, hd]
    exact hfree

end Tree

end ModuleDocs
