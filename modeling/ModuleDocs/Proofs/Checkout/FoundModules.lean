import ModuleDocs.Proofs.Checkout.SameModule

/-! # The modules that a search finds

    A search for modules gives paths that lead down from the base directory
    to different places.  It goes by the names of files, so a file under a
    name that no pattern accepts can be written anywhere without changing
    what is found, as long as the path to it is not too long. -/

namespace ModuleDocs

open Text

namespace Path

/-- Names of files lead down from a directory. -/
theorem resolve_below {names : List Text} (h : ∀ name ∈ names, isFileName name = true)
    (cwd : Location) (p : Path) : (p.below names).resolve cwd = p.resolve cwd ++ names := by
  have hsteps : ∀ l : Location, names.foldl step l = l ++ names := by
    induction names with
    | nil => simp
    | cons name names ih =>
        intro l
        obtain ⟨-, -, hdots, -⟩ := ne_of_isFileName (h name List.mem_cons_self)
        rw [List.foldl_cons, step, if_neg hdots, ih fun n hn => h n (List.mem_cons_of_mem name hn)]
        simp
  show (p.names ++ names).foldl step _ = _
  rw [List.foldl_append, hsteps]
  rfl

theorem resolve_absolute {l : Location} (h : ∀ name ∈ l, isFileName name = true)
    (cwd : Location) : (absolute l).resolve cwd = l :=
  resolve_below h cwd (absolute [])

end Path

namespace CheckoutOptions

variable {o : CheckoutOptions} {t : Tree} {l : Location} {w w' : Workspace} {base : Text}

/-- The names on the way to a module are names of files. -/
theorem isFileName_of_mem_moduleNames {names : List Text} (h : names ∈ o.moduleNames t l) :
    ∀ name ∈ names, isFileName name = true := by
  obtain ⟨⟨way, bytes⟩, hfile, hway⟩ := List.mem_filterMap.mp (List.mem_eraseDups.mp h)
  obtain ⟨⟨k, node⟩, hentry, hbelow⟩ := List.mem_filterMap.mp hfile
  intro name hname
  have hdrop : way = k.drop l.length := by
    cases node with
    | directory => exact nomatch hbelow
    | file bytes =>
        dsimp only at hbelow
        split at hbelow
        · exact (Prod.mk.inj (Option.some.inj hbelow)).1.symm
        · exact nomatch hbelow
  have hnames : names = way.dropLast := by
    dsimp only at hway
    split at hway
    · exact (Option.some.inj hway).symm
    · exact nomatch hway
  rw [hnames, hdrop] at hname
  exact t.named k (List.mem_map.mpr ⟨_, hentry, rfl⟩) name
    (List.mem_of_mem_drop (List.dropLast_subset _ hname))

/-- A search of a directory that is there finds its modules, unless some path below it is too
long. -/
theorem eq_of_moduleDirectories {found : List Path}
    (hl : directoryAt? w (.ofText base) = .ok (some l))
    (h : (o.moduleDirectories w base).value = .ok found) :
    tooLongBelow? w.tree l (.ofText base) = none ∧
      found = ((o.moduleNames w.tree l).map (Path.ofText base).below).mergeSort Path.le := by
  simp only [moduleDirectories, hl] at h
  split at h
  · exact nomatch h
  · next hshort => exact ⟨hshort, (Except.ok.inj h).symm⟩

/-- When a search finds anything, the base directory is there. -/
theorem directoryAt?_of_mem_found {found : List Path}
    (h : (o.moduleDirectories w base).value = .ok found) {d : Path} (hd : d ∈ found) :
    directoryAt? w (.ofText base) = .ok (some ((Path.ofText base).resolve w.cwd)) := by
  cases hbase : directoryAt? w (.ofText base) with
  | error e =>
      simp only [moduleDirectories, hbase] at h
      exact nomatch h
  | ok there =>
      cases there with
      | none =>
          simp only [moduleDirectories, hbase] at h
          obtain rfl := Except.ok.inj h
          exact nomatch hd
      | some l => rw [Tree.eq_of_locate (locate_of_directoryAt? hbase).1]

theorem below_of_mem_found {found : List Path}
    (h : (o.moduleDirectories w base).value = .ok found) {d : Path} (hd : d ∈ found) :
    ∃ names, (∀ name ∈ names, isFileName name = true) ∧ d = (Path.ofText base).below names := by
  obtain ⟨-, rfl⟩ := eq_of_moduleDirectories (directoryAt?_of_mem_found h hd) h
  obtain ⟨names, hnames, rfl⟩ := List.mem_map.mp (List.mem_mergeSort.mp hd)
  exact ⟨names, isFileName_of_mem_moduleNames hnames, rfl⟩

/-- When no path below a directory is too long, none is. -/
theorem isTooLong_of_tooLongBelow? {p : Path} (h : tooLongBelow? t l p = none) {k : Location}
    (hk : k ∈ t.entries.map (·.1)) (hbelow : Tree.isAtOrBelow l k = true) (hne : k ≠ l) :
    Tree.isTooLong (p.below (k.drop l.length)) = false := by
  obtain ⟨⟨k, node⟩, hentry, rfl⟩ := List.mem_map.mp hk
  cases hlong : Tree.isTooLong (p.below (k.drop l.length)) with
  | false => rfl
  | true =>
      unfold tooLongBelow? at h
      dsimp only at h
      have hnil := List.head?_eq_none_iff.mp h
      refine absurd ?_ (List.not_mem_nil (a := p.below (k.drop l.length)))
      rw [← hnil, List.mem_mergeSort, List.mem_filter, List.mem_filterMap]
      exact ⟨⟨_, hentry, if_pos (by simp [hbelow, hne])⟩, hlong⟩

/-- The paths that are found lead to different places. -/
theorem nodup_resolve_found {found : List Path}
    (h : (o.moduleDirectories w base).value = .ok found) :
    (found.map (·.resolve w.cwd)).Nodup := by
  by_cases hne : found = []
  · subst hne
    exact List.nodup_nil
  obtain ⟨d, hd⟩ := List.exists_mem_of_ne_nil found hne
  obtain ⟨-, rfl⟩ := eq_of_moduleDirectories (directoryAt?_of_mem_found h hd) h
  have hperm := List.mergeSort_perm ((o.moduleNames w.tree ((Path.ofText base).resolve w.cwd)).map
    (Path.ofText base).below) Path.le
  refine (hperm.map _).nodup_iff.mpr ?_
  rw [List.map_map]
  refine (nodup_eraseDups _).map_on fun names hnames names' hnames' heq => ?_
  dsimp only [Function.comp] at heq
  rw [Path.resolve_below (isFileName_of_mem_moduleNames hnames),
    Path.resolve_below (isFileName_of_mem_moduleNames hnames')] at heq
  exact List.append_cancel_left heq

/-! ## Written files -/

variable {name : Text} {dirs : Location → Prop} {t' : Tree}

/-- The modules below a location are the same after files of a name that is not accepted were
written. -/
theorem moduleNames_congr (h : Tree.Rewritten name dirs t t') (haccepts : o.accepts name = false)
    (hplaces : ∀ k, dirs k → k ++ [name] ≠ l) : o.moduleNames t l = o.moduleNames t' l := by
  unfold moduleNames Tree.filesBelow
  rw [List.filterMap_filterMap, List.filterMap_filterMap]
  refine congrArg List.eraseDups (h.filterMap_entries fun k hk node => ?_)
  cases node with
  | directory => rfl
  | file bytes =>
      dsimp only
      split
      · next hbelow =>
          have hprefix : l <+: k := by
            rcases List.prefix_concat_iff.mp (of_decide_eq_true hbelow) with heq | hprefix
            · exact absurd heq.symm (hplaces k hk)
            · exact hprefix
          rw [List.drop_append_of_le_length hprefix.length_le, Option.bind_some,
            List.getLast?_concat, Option.getD_some, haccepts]
          rfl
      · rfl

/-- The first path that is too long is the same after files were written whose paths are not too
long. -/
theorem tooLongBelow?_congr {p : Path} (h : Tree.Rewritten name dirs t t')
    (hplaces : ∀ k, dirs k → Tree.isAtOrBelow l (k ++ [name]) = true →
      Tree.isTooLong (p.below ((k ++ [name]).drop l.length)) = false) :
    tooLongBelow? t l p = tooLongBelow? t' l p := by
  unfold tooLongBelow?
  dsimp only
  rw [List.filter_filterMap, List.filter_filterMap]
  rw [h.filterMap_entries fun k hk node => ?_]
  dsimp only
  split
  · next hbelow =>
      have hshort := hplaces k hk (Bool.and_eq_true_iff.mp hbelow).1
      rw [Option.filter_some, hshort]
      rfl
  · rfl

/-- A search finds the same after files of a name that is not accepted were written. -/
theorem moduleDirectories_congr (hcwd : w.cwd = w'.cwd)
    (h : Tree.Rewritten name dirs w.tree w'.tree) (haccepts : o.accepts name = false)
    (hplaces : ∀ l, directoryAt? w (.ofText base) = .ok (some l) → ∀ k, dirs k →
      k ++ [name] ≠ l ∧ (Tree.isAtOrBelow l (k ++ [name]) = true →
        Tree.isTooLong ((Path.ofText base).below ((k ++ [name]).drop l.length)) = false)) :
    o.moduleDirectories w base = o.moduleDirectories w' base := by
  unfold moduleDirectories
  dsimp only
  rw [← directoryAt?_congr hcwd h.sameDirectories]
  cases hdir : directoryAt? w (.ofText base) with
  | error e => rfl
  | ok found =>
      cases found with
      | none => rfl
      | some l =>
          dsimp only
          rw [← tooLongBelow?_congr h fun k hk => (hplaces l hdir k hk).2,
            ← moduleNames_congr h haccepts fun k hk => (hplaces l hdir k hk).1]

end CheckoutOptions

end ModuleDocs
