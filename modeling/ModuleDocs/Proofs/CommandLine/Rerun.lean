import ModuleDocs.CommandLine.Run
import ModuleDocs.Proofs.Checkout.FoundModules
import ModuleDocs.Proofs.Generate.Regeneration

/-! # Running a command line a second time

    A run over all modules writes READMEs in the directories of modules and
    in the directory above the base directory.  None of them is a file of a
    module, a directory or a file of settings, so a second run reads the same
    settings and finds the same modules.  Each module comes to what it came
    to, the table is given the same rows in the same place, and everything is
    written over itself: the second run leaves the tree as it is, and shows
    what the first one showed. -/

namespace ModuleDocs

open Text

/-- When each step gives back what it was given, so do all of them. -/
theorem Except.map_of_mapM {ε α β : Type} {f : α → Except ε β} {g : β → α}
    (h : ∀ a b, f a = .ok b → g b = a) {as : List α} {bs : List β} (hbs : as.mapM f = .ok bs) :
    bs.map g = as := by
  induction as generalizing bs with
  | nil =>
      obtain rfl := Except.ok.inj hbs
      rfl
  | cons a as ih =>
      rw [List.mapM_cons] at hbs
      obtain ⟨b, hb, hrest⟩ := Except.bind_eq_ok.mp hbs
      obtain ⟨rest, hmore, hpure⟩ := Except.bind_eq_ok.mp hrest
      obtain rfl := Except.ok.inj hpure
      rw [List.map_cons, h a b hb, ih hmore]

/-! ## Settings -/

/-- Settings are the same after files of another name than that of the variable file were
written. -/
theorem Settings.load_congr {name : Text} {dirs : Location → Prop} {t t' : Tree}
    (h : Tree.Rewritten name dirs t t') (hname : name ≠ ".env") (env : List (Text × Text))
    (cwd : Location) : Settings.load [] env t cwd = Settings.load [] env t' cwd := by
  -- the only file that is read is the one of variables, and it is not among those rewritten
  have hplace : (Path.ofText ".env").resolve cwd = cwd ++ [(".env" : Text)] := by rfl
  have hnode : t.node? ((Path.ofText ".env").resolve cwd)
      = t'.node? ((Path.ofText ".env").resolve cwd) := by
    rw [hplace]
    refine h.node? fun l _ heq => hname ?_
    simpa using (List.append_inj' heq rfl).2.symm
  have hlook : t.look cwd (Path.ofText ".env") = t'.look cwd (Path.ofText ".env") :=
    h.sameDirectories.look hnode
  have hfiles : Settings.variableFiles t cwd [] = Settings.variableFiles t' cwd [] := by
    unfold Settings.variableFiles
    have hpaths : Settings.variablePaths [] = [(".env" : Text)] := rfl
    rw [hpaths, List.mapM_cons, List.mapM_cons, List.mapM_nil, List.mapM_nil, ← hlook]
    cases hfound : t.look cwd (Path.ofText ".env") with
    | error e =>
        show Except.error (TextFileError.file e) = Except.error (TextFileError.file e)
        rfl
    | ok found =>
        cases found with
        | none =>
            show Except.ok [] = Except.ok []
            rfl
        | some n =>
            unfold Tree.readText
            rw [h.sameDirectories.read_of_look hnode hfound]
  unfold Settings.load
  rw [hfiles]

theorem LogPlan.prepare_none {s : Settings} (h : s.logDir = none) (verbose : Bool)
    (cwd : Location) (t : Tree) :
    (LogPlan.ofSettings s verbose).prepare s.logDir cwd t = (.ok (), t) := by
  unfold LogPlan.prepare LogPlan.ofSettings
  rw [h]
  rfl

namespace CommandLine

variable {a : Arguments} {s : Settings} {w w' : Workspace} {env : List (Text × Text)}

/-- The settings of a run are the same after READMEs were written. -/
theorem settingsFor_congr {dirs : Location → Prop} {t : Tree}
    (h : Tree.Rewritten readmeName dirs w.tree t) :
    settingsFor a { w with tree := t } env = settingsFor a w env := by
  unfold settingsFor
  rw [Settings.load_congr h (by decide)]

/-- A run with settings works on the directories. -/
theorem run_value {arguments : List Text} (ha : read arguments = .ok a)
    (hs : settingsFor a w env = .ok s) (hlog : s.logDir = none) :
    (run arguments env w).value
      = ((process a ⟨w, { settings := s }⟩).value.1.mapError Interruption.error,
          (process a ⟨w, { settings := s }⟩).value.2) := by
  unfold run
  rw [ha]
  dsimp only
  rw [hs]
  dsimp only
  unfold runWith
  rw [LogPlan.prepare_none hlog]
  rfl

/-! ## The directories -/

/-- The paths that lead to directories are some of those that were asked for. -/
theorem sublist_of_presentAndMissing {ds present missing : List Path}
    (h : presentAndMissing w ds = .ok (present, missing)) : present.Sublist ds := by
  unfold presentAndMissing at h
  cases hlooked : ds.mapM fun p => (w.hasDirectory p).map (p, ·) with
  | error e =>
      rw [hlooked] at h
      exact nomatch h
  | ok looked =>
      rw [hlooked] at h
      obtain ⟨rfl, -⟩ := Prod.mk.inj (Except.ok.inj h)
      have hpaths : looked.map (·.1) = ds := by
        refine Except.map_of_mapM (fun d found hd => ?_) hlooked
        cases hdir : w.hasDirectory d with
        | error e =>
            rw [hdir] at hd
            exact nomatch hd
        | ok there =>
            rw [hdir] at hd
            rw [← Except.ok.inj hd]
      exact hpaths ▸ List.filter_sublist.map _

theorem presentAndMissing_congr {t : Tree} (h : Tree.SameDirectories w.tree t) (ds : List Path) :
    presentAndMissing { w with tree := t } ds = presentAndMissing w ds := by
  unfold presentAndMissing Workspace.hasDirectory
  simp only [h.hasDirectory]

/-! ## The table -/

/-- Whether the root README stands in the directory at a location. -/
def HoldsRoot (w : Workspace) (base : Text) (l : Location) : Prop :=
  ∃ root bytes, Generate.rootOf w base = .ok root ∧ l = (Path.absolute root).resolve w.cwd ∧
    w.tree.node? (l ++ [readmeName]) = some (.file bytes)

variable {generations : List Generation}

/-- Refreshing the root README refreshes its table, when there are modules to show. -/
theorem refreshRoot_eq_ok_iff :
    (refreshRoot a w generations).value = (.ok (), w') ↔
      if a.all && generations.any Generation.isOk then
        ∃ root found, Generate.rootOf w a.baseDir = .ok root ∧
          (Generate.updateTable w a.dryRun root generations).value = .ok (found, w')
      else w' = w := by
  unfold refreshRoot
  by_cases hany : (a.all && generations.any Generation.isOk) = true
  · rw [if_pos hany, if_pos hany]
    rw [Logged.value_map]
    unfold Generate.updateRoot
    cases Generate.rootOf w a.baseDir with
    | error e =>
        constructor
        · intro h
          exact nomatch (Prod.mk.inj h).1
        · rintro ⟨root, found, hroot, -⟩
          exact nomatch hroot
    | ok root =>
        cases hupdate : (Generate.updateTable w a.dryRun root generations).value with
        | error e =>
            constructor
            · intro h
              dsimp only at h
              exact nomatch (Prod.mk.inj h).1
            · rintro ⟨root', found, hroot, h⟩
              obtain rfl := Except.ok.inj hroot
              exact nomatch hupdate.symm.trans h
        | ok done =>
            obtain ⟨found, updated⟩ := done
            constructor
            · intro h
              dsimp only at h
              exact ⟨root, found, rfl, by rw [hupdate, (Prod.mk.inj h).2]⟩
            · rintro ⟨root', found', hroot, h⟩
              obtain rfl := Except.ok.inj hroot
              dsimp only
              rw [(Prod.mk.inj (Except.ok.inj (hupdate.symm.trans h))).2]
  · rw [if_neg hany, if_neg hany]
    constructor
    · intro h
      exact (Prod.mk.inj h).2.symm
    · rintro rfl
      rfl

/-- Refreshing the root README writes that README or nothing. -/
theorem rewritten_of_refreshRoot (h : (refreshRoot a w generations).value = (.ok (), w')) :
    ∃ t, w' = { w with tree := t } ∧
      Tree.Rewritten readmeName (HoldsRoot w a.baseDir) w.tree t := by
  rw [refreshRoot_eq_ok_iff] at h
  split at h
  · obtain ⟨root, found, hroot, hupdate⟩ := h
    obtain rfl | ⟨l, bytes, -, updated, rfl, -, hnode, hroom, -, -, -, rfl⟩ :=
      Generate.eq_of_updateTable hupdate
    · exact ⟨w'.tree, rfl, .refl _⟩
    · refine ⟨_, rfl, (Tree.rewritten_withFile hroom _).mono ?_⟩
      rintro k rfl
      exact ⟨root, bytes, hroot, rfl, hnode⟩
  · exact ⟨w.tree, h, .refl _⟩

/-- Refreshing the root README a second time changes nothing, when no row holds the closing mark of
the table. -/
theorem refreshRoot_again (hwrites : a.dryRun = false)
    (hrows : ∀ root, Generate.rootOf w a.baseDir = .ok root →
      ∀ row ∈ generations.filterMap (Generate.row? w root),
        contains row.line Markers.modules.closing = false)
    (h : (refreshRoot a w generations).value = (.ok (), w')) :
    (refreshRoot a w' generations).value = (.ok (), w') := by
  obtain ⟨t, rfl, -⟩ := rewritten_of_refreshRoot h
  rw [refreshRoot_eq_ok_iff, hwrites] at h ⊢
  split at h
  · next hany =>
      obtain ⟨root, found, hroot, hupdate⟩ := h
      rw [if_pos hany]
      exact ⟨root, found, hroot, Generate.updateTable_again (hrows root hroot) hupdate⟩
  · next hany => rw [if_neg hany]

/-! ## The modules -/

/-- Working on directories returns when the READMEs of those that are there have been generated and
the root README has been refreshed. -/
theorem processAll_eq_ok_iff {announced : List Text} {ds present missing : List Path}
    {s after : Session} {r : Report}
    (hpresent : presentAndMissing s.workspace ds = .ok (present, missing))
    (hmany : (Generate.many a.dryRun present s).value = (generations, after)) :
    (processAll a announced ds s).value = (.ok r, w') ↔
      (refreshRoot a after.workspace generations).value = (.ok (), w') ∧
        report announced generations missing.length = r := by
  have hvalue : (processAll a announced ds s).value
      = (((refreshRoot a (Generate.many a.dryRun present s).value.2.workspace
            (Generate.many a.dryRun present s).value.1).value.1.mapError
              (.mk (printed (statusLines announced (Generate.many a.dryRun present s).value.1)))).map
          fun _ => report announced (Generate.many a.dryRun present s).value.1 missing.length,
        (refreshRoot a (Generate.many a.dryRun present s).value.2.workspace
            (Generate.many a.dryRun present s).value.1).value.2) := by
    unfold processAll
    rw [hpresent]
    rfl
  rw [hvalue, hmany]
  -- only the table can break the run off
  generalize (refreshRoot a after.workspace generations).value = refreshed
  obtain ⟨result, workspace⟩ := refreshed
  cases result with
  | error e =>
      constructor
      · intro h
        exact nomatch (Prod.mk.inj h).1
      · rintro ⟨h, -⟩
        exact nomatch (Prod.mk.inj h).1
  | ok u =>
      constructor
      · intro h
        obtain ⟨hreport, rfl⟩ := Prod.mk.inj h
        exact ⟨rfl, Except.ok.inj hreport⟩
      · rintro ⟨h, rfl⟩
        rw [(Prod.mk.inj h).2]
        rfl

/-- The directory of the root README stands above the base directory. -/
theorem eq_of_holdsRoot {base : Text} {l k : Location} {t : Tree}
    (hl : CheckoutOptions.directoryAt? w (.ofText base) = .ok (some l))
    (h : HoldsRoot { w with tree := t } base k) : k = l.dropLast := by
  obtain ⟨hway, hdirectory⟩ := CheckoutOptions.locate_of_directoryAt? hl
  obtain rfl := Tree.eq_of_locate hway
  obtain ⟨root, bytes, hroot, rfl, -⟩ := h
  have hnames : ∀ name ∈ ((Path.ofText base).resolve w.cwd).dropLast, isFileName name = true := by
    have hnode : w.tree.node? ((Path.ofText base).resolve w.cwd) = some .directory :=
      of_decide_eq_true hdirectory
    intro name hname
    exact w.tree.isFileName_of_node? (by simp [hnode]) name (List.dropLast_subset _ hname)
  unfold Generate.rootOf Workspace.resolve at hroot
  split at hroot
  · exact nomatch hroot
  · obtain rfl := Except.ok.inj hroot
    exact Path.resolve_absolute hnames w.cwd

/-- What a run over the modules below a base directory does to the tree: the READMEs of the modules
are written, which gives `made`, and then the root README, which gives `left`. -/
structure Leaves (s : Session) (base : Text) (found present : List Path) (made left : Tree) :
    Prop where
  /-- The modules that are found. -/
  modules : ((s.components.offer s.workspace.git).checkout.options.moduleDirectories s.workspace
    base).value = .ok found
  /-- None of them stands in the root of the file system, above which there is nothing. -/
  belowTop : ∀ d ∈ found, d.resolve s.workspace.cwd ≠ []
  /-- The modules that are worked on. -/
  sublist : present.Sublist found
  written : Tree.Rewritten readmeName (fun l => ∃ d ∈ present, s.Makes d l) s.workspace.tree made
  readmes : ∀ d ∈ present, ∀ text, s.outcomeOf d = .ok text →
    made.node? (d.resolve s.workspace.cwd ++ [readmeName]) = some (.file (utf8 text))
  refreshed : Tree.Rewritten readmeName (HoldsRoot { s.workspace with tree := made } base) made left

namespace Leaves

variable {start : Session} {base : Text} {found present : List Path} {made left : Tree}

/-- A module is a path that a text can give, and stands at or below the base directory. -/
theorem below_of_mem (h : Leaves start base found present made left) {d : Path} (hd : d ∈ found) :
    d.IsPlain ∧ ∃ names, d = (Path.ofText base).below names ∧
      d.resolve start.workspace.cwd
        = (Path.ofText base).resolve start.workspace.cwd ++ names := by
  obtain ⟨names, hnames, rfl⟩ := CheckoutOptions.below_of_mem_found h.modules hd
  exact ⟨(Path.isPlain_ofText base).below hnames, names, rfl, Path.resolve_below hnames _ _⟩

/-- No module stands where the root README stands. -/
theorem resolve_ne_root (h : Leaves start base found present made left) {d : Path} (hd : d ∈ found)
    {k : Location} (hk : HoldsRoot { start.workspace with tree := made } base k) :
    d.resolve start.workspace.cwd ≠ k := by
  obtain ⟨-, names, -, hplace⟩ := h.below_of_mem hd
  have hroot := eq_of_holdsRoot (CheckoutOptions.directoryAt?_of_mem_found h.modules hd) hk
  intro heq
  -- only the root of the file system is below the directory above it
  have hlength := congrArg List.length (hplace.symm.trans (heq.trans hroot))
  rw [List.length_append, List.length_dropLast] at hlength
  refine h.belowTop d hd (List.eq_nil_of_length_eq_zero ?_)
  rw [hplace, List.length_append]
  omega

theorem nodup_resolve (h : Leaves start base found present made left) :
    (present.map (·.resolve start.workspace.cwd)).Nodup :=
  (CheckoutOptions.nodup_resolve_found h.modules).sublist (h.sublist.map _)

/-- Only READMEs are written. -/
theorem rewritten (h : Leaves start base found present made left) :
    Tree.Rewritten readmeName
      (fun l => (∃ d ∈ present, start.Makes d l) ∨
        HoldsRoot { start.workspace with tree := made } base l) start.workspace.tree left :=
  (h.written.mono fun _ => .inl).trans (h.refreshed.mono fun _ => .inr)

/-- The path to a README that was made is not too long, and it does not lead to the base
directory. -/
theorem place_of_makes (h : Leaves start base found present made left) {d : Path}
    (hd : d ∈ present) {k : Location} (hk : start.Makes d k) :
    k ++ [readmeName] ≠ (Path.ofText base).resolve start.workspace.cwd ∧
      Tree.isTooLong ((Path.ofText base).below ((k ++ [readmeName]).drop
        ((Path.ofText base).resolve start.workspace.cwd).length)) = false := by
  obtain ⟨hl, text, htext⟩ := hk
  obtain ⟨hplain, names, hd', hplace⟩ := h.below_of_mem (h.sublist.subset hd)
  have hway := (Generate.hasRoom_of_content hplain htext).2.1
  obtain rfl := Tree.eq_of_locate hl
  rw [hplace, List.append_assoc]
  constructor
  · intro heq
    have hlength := congrArg List.length heq
    simp at hlength
  · rw [List.drop_left]
    have hchild : (Path.ofText base).below (names ++ [readmeName]) = d.child readmeName := by
      rw [hd', Path.child, Path.below, Path.below, Path.below, List.append_assoc]
    rw [hchild]
    exact Tree.isTooLong_of_locate hway

/-- The root README is below the base directory only when that is the root of the file system.  The
path to it is not too long then, and it never leads to the base directory. -/
theorem place_of_holdsRoot (h : Leaves start base found present made left) {k : Location}
    (hbase : CheckoutOptions.directoryAt? start.workspace (.ofText base)
      = .ok (some ((Path.ofText base).resolve start.workspace.cwd)))
    (hk : HoldsRoot { start.workspace with tree := made } base k) :
    k ++ [readmeName] ≠ (Path.ofText base).resolve start.workspace.cwd ∧
      (Tree.isAtOrBelow ((Path.ofText base).resolve start.workspace.cwd) (k ++ [readmeName])
          = true →
        Tree.isTooLong ((Path.ofText base).below ((k ++ [readmeName]).drop
          ((Path.ofText base).resolve start.workspace.cwd).length)) = false) := by
  have hdrop := eq_of_holdsRoot hbase hk
  obtain ⟨-, bytes, -, -, hnode⟩ := hk
  have hdirectory := (CheckoutOptions.locate_of_directoryAt? hbase).2
  have hne : k ++ [readmeName] ≠ (Path.ofText base).resolve start.workspace.cwd := by
    intro heq
    rw [← heq, h.written.sameDirectories, Tree.isDirectory, hnode] at hdirectory
    cases of_decide_eq_true hdirectory
  refine ⟨hne, fun hbelow => ?_⟩
  generalize (Path.ofText base).resolve start.workspace.cwd = l at *
  have htop : l = [] := by
    rcases List.prefix_concat_iff.mp (of_decide_eq_true hbelow) with heq | hprefix
    · exact absurd heq.symm hne
    · have hlength := hprefix.length_le
      rw [hdrop, List.length_dropLast] at hlength
      exact List.eq_nil_of_length_eq_zero (by omega)
  subst htop hdrop
  -- no module stands in the root of the file system, so the README was there before
  have hearlier : start.workspace.tree.node? [readmeName] = some (.file bytes) := by
    rw [← hnode]
    refine h.written.node? ?_
    rintro m ⟨d, hd, hm, -⟩ heq
    refine h.belowTop d (h.sublist.subset hd) ?_
    rw [← Tree.eq_of_locate hm]
    exact (List.append_inj' heq rfl).1.symm
  have hshort := (CheckoutOptions.eq_of_moduleDirectories hbase h.modules).1
  have hkey := Tree.mem_keys_of_node? (List.cons_ne_nil _ _)
    (ne_of_eq_of_ne hearlier (Option.some_ne_none _))
  exact CheckoutOptions.isTooLong_of_tooLongBelow? hshort hkey hbelow hne

/-- The same modules are found again. -/
theorem modules_again (h : Leaves start base found present made left)
    (haccepts : (start.components.offer start.workspace.git).checkout.options.accepts readmeName
      = false) :
    ((start.components.offer start.workspace.git).checkout.options.moduleDirectories
      { start.workspace with tree := left } base).value = .ok found := by
  rw [← h.modules]
  refine Eq.symm (congrArg Logged.value (CheckoutOptions.moduleDirectories_congr
    (w := start.workspace) rfl h.rewritten haccepts fun l hl k hk => ?_))
  obtain rfl := Tree.eq_of_locate (CheckoutOptions.locate_of_directoryAt? hl).1
  rcases hk with ⟨d, hd, hk⟩ | hk
  · obtain ⟨hne, hshort⟩ := h.place_of_makes hd hk
    exact ⟨hne, fun _ => hshort⟩
  · exact h.place_of_holdsRoot hl hk

/-- A README that was made is in its place. -/
theorem readme_left (h : Leaves start base found present made left) {d : Path} (hd : d ∈ present)
    {text : Text} (htext : start.outcomeOf d = .ok text) :
    left.node? (d.resolve start.workspace.cwd ++ [readmeName]) = some (.file (utf8 text)) := by
  rw [← h.readmes d hd text htext]
  refine (h.refreshed.node? fun k hk heq => ?_).symm
  exact h.resolve_ne_root (h.sublist.subset hd) hk (List.append_inj' heq rfl).1

/-- Each module comes to what it came to. -/
theorem outcomeOf_again (h : Leaves start base found present made left)
    (haccepts : (start.components.offer start.workspace.git).checkout.options.accepts readmeName
      = false)
    {d : Path} (hd : d ∈ present)
    (hmade : ∀ sections,
      (start.components.offer start.workspace.git).madeSections start.workspace d = .ok sections →
        ∀ part ∈ sections, Markers.tfDocs.AbsentFrom part) :
    Session.outcomeOf ⟨{ start.workspace with tree := left }, start.components⟩ d
      = start.outcomeOf d := by
  have hplain := (h.below_of_mem (h.sublist.subset hd)).1
  cases houtcome : start.outcomeOf d with
  | ok text =>
      exact Generate.content_again hplain haccepts houtcome hmade h.rewritten
        (h.readme_left hd houtcome)
  | error e =>
      rw [← houtcome]
      -- nothing was written in the directory of a module that has failed
      refine Eq.symm (Generate.content_congr (w := start.workspace) rfl rfl rfl
        h.rewritten.sameDirectories hplain fun l hl => h.rewritten.agreesAt ?_)
      obtain rfl := Tree.eq_of_locate hl
      rintro (⟨d', hd', hl', text, htext⟩ | hk)
      · obtain rfl := List.inj_on_of_nodup_map h.nodup_resolve hd hd' (Tree.eq_of_locate hl')
        exact nomatch houtcome.symm.trans htext
      · exact h.resolve_ne_root (h.sublist.subset hd) hk rfl

end Leaves

/-! ## The run -/

/-- Working a second time on the modules that were found shows the same and leaves the tree as it
is. -/
theorem processAll_again {c : Components} {found : List Path} {announced : List Text} {r : Report}
    (hwrites : a.dryRun = false)
    (hmodules : ((c.offer w.git).checkout.options.moduleDirectories w a.baseDir).value = .ok found)
    (hbelow : ∀ d ∈ found, d.resolve w.cwd ≠ [])
    (haccepts : (c.offer w.git).checkout.options.accepts readmeName = false)
    (hsections : ∀ d ∈ found, ∀ sections, (c.offer w.git).madeSections w d = .ok sections →
      ∀ part ∈ sections, Markers.tfDocs.AbsentFrom part)
    (hrows : ∀ root, Generate.rootOf w a.baseDir = .ok root → ∀ d ∈ found,
      ∀ row ∈ Generate.row? w root ⟨d, false, Session.outcomeOf ⟨w, c⟩ d⟩,
        contains row.line Markers.modules.closing = false)
    (hfirst : (processAll a announced found ⟨w, c⟩).value = (.ok r, w')) :
    ∃ present made left, Leaves ⟨w, c⟩ a.baseDir found present made left ∧
      w' = { w with tree := left } ∧
      (processAll a announced found ⟨w', c⟩).value = (.ok r, w') := by
  cases hpresent : presentAndMissing w found with
  | error e =>
      rw [processAll, hpresent] at hfirst
      exact nomatch (Prod.mk.inj hfirst).1
  | ok there =>
      obtain ⟨present, missing⟩ := there
      have hsub := sublist_of_presentAndMissing hpresent
      have hplain : ∀ d ∈ present, d.IsPlain := by
        intro d hd
        obtain ⟨names, hnames, rfl⟩ := CheckoutOptions.below_of_mem_found hmodules (hsub.subset hd)
        exact (Path.isPlain_ofText _).below hnames
      have hapart : present.Pairwise w.Apart := by
        have hnodup := (CheckoutOptions.nodup_resolve_found hmodules).sublist (hsub.map _)
        refine (List.pairwise_map.mp hnodup).imp fun hne l hp hq => hne ?_
        exact (Tree.eq_of_locate hp).symm.trans (Tree.eq_of_locate hq)
      obtain ⟨made, _, -, hmany, hwritten, hreadmes⟩ :=
        Generate.many_value false hplain (s := ⟨w, c⟩) hapart
      rw [← hwrites] at hmany
      obtain ⟨hrefreshed, hreport⟩ :=
        (processAll_eq_ok_iff (s := ⟨w, c⟩) hpresent hmany).mp hfirst
      obtain ⟨left, rfl, hroot⟩ := rewritten_of_refreshRoot hrefreshed
      have hleaves : Leaves ⟨w, c⟩ a.baseDir found present made left :=
        { modules := hmodules
          belowTop := hbelow
          sublist := hsub
          written := hwritten
          readmes := by
            intro d hd text htext
            have hl := (Generate.hasRoom_of_content (hplain d hd) htext).1
            rw [hreadmes d hd _ hl, htext]
            rfl
          refreshed := hroot }
      refine ⟨present, made, left, hleaves, rfl, ?_⟩
      -- the second time
      have houtcome : ∀ d ∈ present, Session.outcomeOf ⟨{ w with tree := left }, c⟩ d
          = Session.outcomeOf ⟨w, c⟩ d :=
        fun d hd => hleaves.outcomeOf_again haccepts hd (hsections d (hsub.subset hd))
      have hpresent' : presentAndMissing { w with tree := left } found = .ok (present, missing) :=
        (presentAndMissing_congr hleaves.rewritten.sameDirectories found).trans hpresent
      obtain ⟨_, hmany'⟩ := Generate.many_settled hplain (s := ⟨{ w with tree := left }, c⟩)
        fun d hd text htext => hleaves.readme_left hd ((houtcome d hd).symm.trans htext)
      have hgenerations : (present.map fun d => (⟨d, false,
            Session.outcomeOf ⟨{ w with tree := left }, c⟩ d⟩ : Generation))
          = present.map fun d => ⟨d, false, Session.outcomeOf ⟨w, c⟩ d⟩ :=
        List.map_congr_left fun d hd => by rw [houtcome d hd]
      rw [hgenerations, ← hwrites] at hmany'
      refine (processAll_eq_ok_iff (s := ⟨{ w with tree := left }, c⟩) hpresent' hmany').mpr
        ⟨refreshRoot_again hwrites (fun root hroot row hrow => ?_) hrefreshed, hreport⟩
      obtain ⟨g, hg, hrow⟩ := List.mem_filterMap.mp hrow
      obtain ⟨d, hd, rfl⟩ := List.mem_map.mp hg
      rw [hwrites] at hrow
      exact hrows root hroot d (hsub.subset hd) row hrow

/-- The parts that a run over all modules has when it begins to work on them: the checkout. -/
def partsFor (s : Settings) : Components := (Components.getCheckout { settings := s }).2

/-- A run over all modules works on those that are found. -/
theorem process_value (hall : a.all = true) (s : Settings) (w : Workspace) :
    (process a ⟨w, { settings := s }⟩).value
      = match ((Components.checkoutOptions s).moduleDirectories w a.baseDir).value with
        | .error e => (.error ⟨[], .file e⟩, w)
        | .ok [] =>
          (.ok ⟨0, printed ([foundLine [] a.baseDir] ++ ["No directories to process.".toList])⟩, w)
        | .ok (d :: ds) =>
          (processAll a [foundLine (d :: ds) a.baseDir] (d :: ds) ⟨w, partsFor s⟩).value := by
  have hrequested : (requested a ⟨w, { settings := s }⟩).value
      = (((Components.checkoutOptions s).moduleDirectories w a.baseDir).value.map fun ps =>
          (ps, [foundLine ps a.baseDir]), ⟨w, partsFor s⟩) := by
    unfold requested
    rw [if_pos hall]
    rfl
  unfold process
  rw [Logged.value_bind, hrequested]
  cases ((Components.checkoutOptions s).moduleDirectories w a.baseDir).value with
  | error e => rfl
  | ok found => cases found <;> rfl

/-- The modules that a run over all modules finds below a directory. -/
def modulesFound (s : Settings) (w : Workspace) (base : Text) : List Path :=
  match ((Components.checkoutOptions s).moduleDirectories w base).value with
  | .ok found => found
  | .error _ => []

/-- Regeneration is a fixpoint.  Take any files, any base directory and settings without a log
directory, whose patterns do not accept the name of a README.  No section that is made anew for a
module holds a mark of the section that is carried over, and no row of the table holds the closing
mark of the table.  Then a run over all modules that returns, and that is not a dry run, leaves
everything in such a state that the same run again shows the same, with the same exit code, and
leaves every file as it is; whatever the old READMEs hold, and whichever modules fail.

A module in the root of the file system is left out: nothing stands above it, so its README would be
the root README as well. -/
theorem run_again {arguments : List Text} {r : Report} (ha : read arguments = .ok a)
    (hall : a.all = true) (hwrites : a.dryRun = false) (hs : settingsFor a w env = .ok s)
    (hlog : s.logDir = none)
    (haccepts : (Components.checkoutOptions s).accepts readmeName = false)
    (hbelow : ∀ d ∈ modulesFound s w a.baseDir, d.resolve w.cwd ≠ [])
    (hsections : ∀ d ∈ modulesFound s w a.baseDir, ∀ sections,
      ((Generate.madeSections w d).run { settings := s }).value.1 = .ok sections →
        ∀ part ∈ sections, Markers.tfDocs.AbsentFrom part)
    (hrows : ∀ root, Generate.rootOf w a.baseDir = .ok root → ∀ d ∈ modulesFound s w a.baseDir,
      ∀ row ∈ Generate.row? w root (Generate.one false d ⟨w, { settings := s }⟩).value.1,
        contains row.line Markers.modules.closing = false)
    (hfirst : (run arguments env w).value = (.ok r, w')) :
    (run arguments env w').value = (.ok r, w') := by
  have hvalue := run_value ha hs hlog
  rw [hfirst, process_value hall] at hvalue
  unfold modulesFound at hbelow hsections hrows
  cases hmodules : ((Components.checkoutOptions s).moduleDirectories w a.baseDir).value with
  | error e =>
      rw [hmodules] at hvalue
      exact nomatch (Prod.mk.inj hvalue).1
  | ok found =>
      rw [hmodules] at hvalue hbelow hsections hrows
      dsimp only at hbelow hsections hrows
      cases found with
      | nil =>
          -- nothing was written
          obtain rfl : w' = w := (Prod.mk.inj hvalue).2
          exact hfirst
      | cons d ds =>
          have hoffer : (partsFor s).offer w.git = Components.offer w.git { settings := s } :=
            Components.offer_getCheckout w.git { settings := s }
          have hprocess : (processAll a [foundLine (d :: ds) a.baseDir] (d :: ds)
              ⟨w, partsFor s⟩).value = (.ok r, w') := by
            obtain ⟨hresult, hleft⟩ := Prod.mk.inj hvalue
            exact Prod.ext (Except.mapError_eq_ok.mp hresult.symm) hleft.symm
          have hsections' : ∀ e ∈ d :: ds, ∀ sections,
              ((partsFor s).offer w.git).madeSections w e = .ok sections →
                ∀ part ∈ sections, Markers.tfDocs.AbsentFrom part := by
            intro e he sections hmade
            refine hsections e he sections ?_
            rw [← hmade, hoffer]
            exact (Generate.comesTo_madeSections e { settings := s } rfl).1
          have hrows' : ∀ root, Generate.rootOf w a.baseDir = .ok root → ∀ e ∈ d :: ds,
              ∀ row ∈ Generate.row? w root ⟨e, false, Session.outcomeOf ⟨w, partsFor s⟩ e⟩,
                contains row.line Markers.modules.closing = false := by
            intro root hroot e he row hrow
            obtain ⟨names, hnames, hplain⟩ := CheckoutOptions.below_of_mem_found hmodules he
            obtain ⟨_, -, hone⟩ := Generate.one_value (d := e) false
              (hplain ▸ (Path.isPlain_ofText _).below hnames) ⟨w, { settings := s }⟩
            refine hrows root hroot e he row ?_
            rw [hone]
            unfold Session.outcomeOf at hrow ⊢
            rwa [hoffer] at hrow
          obtain ⟨present, made, left, hleaves, rfl, hagain⟩ :=
            processAll_again (c := partsFor s) hwrites hmodules hbelow haccepts hsections' hrows'
              hprocess
          have hmodules' : ((Components.checkoutOptions s).moduleDirectories
              { w with tree := left } a.baseDir).value = .ok (d :: ds) :=
            hleaves.modules_again haccepts
          rw [run_value ha ((settingsFor_congr hleaves.rewritten).trans hs) hlog,
            process_value hall, hmodules']
          dsimp only
          rw [hagain]
          rfl

/-- What is said of the value that a computation gives is decided by computing it. -/
instance decidableForallOk {ε α : Type} (x : Except ε α) (p : α → Prop) [DecidablePred p] :
    Decidable (∀ a, x = .ok a → p a) :=
  match x with
  | .ok a => decidable_of_iff (p a) ⟨fun h _ ha => Except.ok.inj ha ▸ h, fun h => h a rfl⟩
  | .error _ => .isTrue fun _ h => nomatch h

/-- A checkout with one module and a root README that has a place for the table. -/
def shop : Workspace where
  tree :=
    (((Tree.empty.put ["README.md"]
        (.file (utf8 "# Shop\n<!-- BEGIN_MODULES -->\n<!-- END_MODULES -->\n"))
        hasRoom_readmeName).put
      ["modules"] .directory (by decide +kernel)).put
      ["modules", "store"] .directory (by decide +kernel)).put
      ["modules", "store", "main.tf"] (.file (utf8 "variable \"name\" \x7b\x7d"))
        (by decide +kernel)
  cwd := []
  git := .silent
  chat := fun _ => .noChoices

/-- The first run writes the README of the module; the second run changes nothing. -/
theorem run_again_shop :
    let arguments : List Text := ["--all", "--base-dir", "modules", "--describer", "heuristic"]
    ∃ r w', (run arguments [] shop).value = (.ok r, w') ∧
      (w'.tree.node? ["modules", "store", "README.md"]).isSome = true ∧
      (run arguments [] w').value = (.ok r, w') := by
  intro arguments
  have hread : read arguments
      = .ok { all := true, baseDir := "modules", describer := some "heuristic" } := by
    decide +kernel
  have hsettings : settingsFor { all := true, baseDir := "modules", describer := some "heuristic" }
      shop [] = .ok { describerType := "heuristic" } := by decide +kernel
  have hfirst : (run arguments [] shop).value.1.toOption.isSome = true ∧
      ((run arguments [] shop).value.2.tree.node? ["modules", "store", "README.md"]).isSome
        = true := by decide +kernel
  generalize hvalue : (run arguments [] shop).value = done at hfirst
  obtain ⟨result, w'⟩ := done
  cases result with
  | error e => exact nomatch hfirst.1
  | ok r =>
      exact ⟨r, w', rfl, hfirst.2, run_again hread rfl rfl hsettings rfl (by decide)
        (by decide +kernel) (by decide +kernel) (by decide +kernel) hvalue⟩

/-- A module in the root of the file system.  What it declares holds the opening mark of the table,
and its README holds the closing one among what is carried over. -/
def topModule : Workspace where
  tree :=
    (Tree.empty.put ["README.md"]
        (.file (utf8 "<!-- BEGIN_TF_DOCS --><!-- END_MODULES --><!-- END_TF_DOCS -->"))
        hasRoom_readmeName).put
      ["main.tf"] (.file (utf8 "variable \"<!-- BEGIN_MODULES -->\" \x7b\x7d"))
        (by decide +kernel)
  cwd := []
  git := .silent
  chat := fun _ => .noChoices

/-- Nothing stands above the root of the file system, so the README of a module there is the root
README as well.  The first run writes the table into it, over the mark that opens what is carried
over; the second run finds no such mark and leaves another README. -/
theorem run_again_changes_topModule :
    let arguments : List Text := ["--all", "--base-dir", "/", "--describer", "heuristic"]
    let a : Arguments := { all := true, baseDir := "/", describer := some "heuristic" }
    let s : Settings := { describerType := "heuristic" }
    read arguments = .ok a ∧ settingsFor a topModule [] = .ok s ∧ s.logDir = none ∧
    (Components.checkoutOptions s).accepts readmeName = false ∧
    (∀ d ∈ modulesFound s topModule a.baseDir, ∀ sections,
      ((Generate.madeSections topModule d).run { settings := s }).value.1 = .ok sections →
        ∀ part ∈ sections, Markers.tfDocs.AbsentFrom part) ∧
    (∀ root, Generate.rootOf topModule a.baseDir = .ok root →
      ∀ d ∈ modulesFound s topModule a.baseDir, ∀ row ∈ Generate.row? topModule root
          (Generate.one false d ⟨topModule, { settings := s }⟩).value.1,
        contains row.line Markers.modules.closing = false) ∧
    ∃ r w', (run arguments [] topModule).value = (.ok r, w') ∧
      (run arguments [] w').value.2.tree.node? [readmeName] ≠ w'.tree.node? [readmeName] := by
  intro arguments a s
  have hruns : (run arguments [] topModule).value.1.toOption.isSome = true ∧
      (run arguments [] (run arguments [] topModule).value.2).value.2.tree.node? [readmeName]
        ≠ (run arguments [] topModule).value.2.tree.node? [readmeName] := by decide +kernel
  refine ⟨by decide +kernel, by decide +kernel, rfl, by decide +kernel, by decide +kernel,
    by decide +kernel, ?_⟩
  generalize hvalue : (run arguments [] topModule).value = done at hruns
  obtain ⟨result, w'⟩ := done
  cases result with
  | error e => exact nomatch hruns.1
  | ok r => exact ⟨r, w', rfl, hruns.2⟩

end CommandLine

end ModuleDocs
