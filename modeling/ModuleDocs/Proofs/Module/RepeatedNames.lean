import ModuleDocs.Module.Context
import ModuleDocs.Proofs.Log
import ModuleDocs.Proofs.Text.Compound

/-! # Names that are declared more than once

    The declarations of a module are gone through in the order of file names
    and then of the texts, whatever the order in which the files are given.
    Of a name that is declared more than once either the last occurrence
    stands for it, or the name is refused.

    Which occurrence is the last one is said by places: at a last place
    stands a declaration whose name occurs at no later place.  What is kept
    is what stands at the last places, in their order, so it names nothing
    twice, and resolving it once more changes nothing. -/

namespace ModuleDocs

open Text

variable {ds : List Declaration} {name : Text}

/-! ## Repeated names -/

theorem mem_repeatedNames :
    name ∈ repeatedNames ds ↔ 1 < (ds.map (·.name)).count name := by
  rw [repeatedNames, mem_sort, List.mem_filter, List.mem_eraseDups, decide_eq_true_iff]
  refine and_iff_right_of_imp fun hcount => ?_
  exact List.count_pos_iff.mp (Nat.zero_lt_of_lt hcount)

theorem nodup_repeatedNames (ds : List Declaration) : (repeatedNames ds).Nodup :=
  nodup_sort ((nodup_eraseDups _).filter _)

theorem repeatedNames_eq_nil_iff :
    repeatedNames ds = [] ↔ (ds.map (·.name)).Nodup := by
  rw [List.nodup_iff_count, List.eq_nil_iff_forall_not_mem]
  refine forall_congr' fun name => ?_
  rw [mem_repeatedNames, Nat.not_lt]

/-! ## Last occurrences -/

/-- The places, in order, at which a name stands that occurs at no later place. -/
def lastPlaces (ds : List Declaration) : List (Fin ds.length) :=
  (List.finRange ds.length).filter fun i => ∀ j, i < j → (ds.get j).name ≠ (ds.get i).name

/-- Behind the first declaration the last places are those of the rest. -/
theorem lastPlaces_cons (d : Declaration) (ds : List Declaration) :
    lastPlaces (d :: ds)
      = (if ds.any (·.name = d.name) then [] else [0]) ++ (lastPlaces ds).map Fin.succ := by
  have hfirst : (∀ j : Fin (ds.length + 1), 0 < j → ((d :: ds).get j).name ≠ d.name) ↔
      ¬ ds.any (·.name = d.name) = true := by
    rw [Fin.forall_fin_succ, List.any_eq_true]
    constructor
    · rintro ⟨-, hlater⟩ ⟨e, he, hname⟩
      obtain ⟨j, rfl⟩ := List.get_of_mem he
      exact hlater j (Fin.succ_pos j) (of_decide_eq_true hname)
    · intro hnone
      refine ⟨fun h => absurd h (lt_irrefl _), fun j _ hname => hnone ?_⟩
      exact ⟨ds.get j, List.get_mem ds j, decide_eq_true hname⟩
  -- the first place is behind no other, so it does not matter for the later ones
  have hlater : ∀ i : Fin ds.length,
      (∀ j : Fin (ds.length + 1), i.succ < j → ((d :: ds).get j).name ≠ (ds.get i).name) ↔
        ∀ j, i < j → (ds.get j).name ≠ (ds.get i).name := by
    intro i
    rw [Fin.forall_fin_succ]
    refine (and_iff_right fun h => absurd h (Fin.not_lt_zero _)).trans ?_
    exact forall_congr' fun j => imp_congr Fin.succ_lt_succ_iff Iff.rfl
  have hrest : ((List.finRange ds.length).map Fin.succ).filter
      (fun i => ∀ j, i < j → ((d :: ds).get j).name ≠ ((d :: ds).get i).name)
        = (lastPlaces ds).map Fin.succ := by
    rw [List.filter_map, lastPlaces]
    refine congrArg (List.map Fin.succ) (List.filter_congr fun i _ => ?_)
    exact decide_eq_decide.mpr (hlater i)
  show (List.finRange (ds.length + 1)).filter _ = _
  rw [List.finRange_succ, List.filter_cons, hrest]
  by_cases hany : ds.any (·.name = d.name) = true
  · rw [if_neg, if_pos hany, List.nil_append]
    rw [decide_eq_true_iff]
    exact fun h => hfirst.mp h hany
  · rw [if_pos, if_neg hany, List.singleton_append]
    exact decide_eq_true (hfirst.mpr hany)

/-- What is kept of each name is what stands at its last place. -/
theorem lastOccurrences_eq (ds : List Declaration) :
    lastOccurrences ds = (lastPlaces ds).map ds.get := by
  induction ds with
  | nil => rfl
  | cons d ds ih =>
      have hrest : ((lastPlaces ds).map Fin.succ).map (d :: ds).get = lastOccurrences ds := by
        rw [List.map_map, ih]
        rfl
      rw [lastOccurrences, lastPlaces_cons, List.map_append, hrest]
      by_cases hany : ds.any (·.name = d.name) = true
      · rw [if_pos hany, if_pos hany]
        rfl
      · rw [if_neg hany, if_neg hany]
        rfl

/-- Each name keeps an occurrence, and no other name gets one. -/
theorem mem_names_lastOccurrences :
    name ∈ (lastOccurrences ds).map (·.name) ↔ name ∈ ds.map (·.name) := by
  induction ds with
  | nil => exact Iff.rfl
  | cons d ds ih =>
      rw [lastOccurrences, List.map_cons, List.mem_cons]
      by_cases hany : ds.any (·.name = d.name) = true
      · rw [if_pos hany, ih]
        refine (or_iff_right_of_imp ?_).symm
        rintro rfl
        obtain ⟨e, he, hname⟩ := List.any_eq_true.mp hany
        exact List.mem_map.mpr ⟨e, he, of_decide_eq_true hname⟩
      · rw [if_neg hany, List.map_cons, List.mem_cons, ih]

/-- No name keeps two occurrences. -/
theorem nodup_names_lastOccurrences (ds : List Declaration) :
    ((lastOccurrences ds).map (·.name)).Nodup := by
  induction ds with
  | nil => exact List.nodup_nil
  | cons d ds ih =>
      rw [lastOccurrences]
      by_cases hany : ds.any (·.name = d.name) = true
      · rw [if_pos hany]
        exact ih
      · rw [if_neg hany, List.map_cons, List.nodup_cons, mem_names_lastOccurrences]
        refine ⟨fun hmem => hany ?_, ih⟩
        obtain ⟨e, he, hname⟩ := List.mem_map.mp hmem
        exact List.any_eq_true.mpr ⟨e, he, decide_eq_true hname⟩

/-- Names that occur once keep their occurrence. -/
theorem lastOccurrences_eq_self (h : (ds.map (·.name)).Nodup) : lastOccurrences ds = ds := by
  induction ds with
  | nil => rfl
  | cons d ds ih =>
      obtain ⟨hfirst, hrest⟩ := List.nodup_cons.mp h
      have hany : ¬ ds.any (·.name = d.name) = true := by
        intro hany
        obtain ⟨e, he, hname⟩ := List.any_eq_true.mp hany
        exact hfirst (List.mem_map.mpr ⟨e, he, of_decide_eq_true hname⟩)
      rw [lastOccurrences, if_neg hany, ih hrest]

/-! ## Policies -/

/-- Where nothing is repeated there is nothing to resolve. -/
theorem resolveDuplicates_of_nodup (policy : DuplicatePolicy) (h : (ds.map (·.name)).Nodup) :
    resolveDuplicates policy ds = pure (.ok ds) := by
  unfold resolveDuplicates
  exact if_pos (repeatedNames_eq_nil_iff.mpr h)

/-- The last occurrences are kept, with repeats or without. -/
theorem value_resolveDuplicates_lastWins (ds : List Declaration) :
    (resolveDuplicates .lastWins ds).value = .ok (lastOccurrences ds) := by
  by_cases h : (ds.map (·.name)).Nodup
  · rw [resolveDuplicates_of_nodup _ h, lastOccurrences_eq_self h]
    rfl
  · unfold resolveDuplicates
    rw [if_neg (mt repeatedNames_eq_nil_iff.mp h)]
    rfl

/-- Repeats are refused by their names. -/
theorem value_resolveDuplicates_reject (h : ¬ (ds.map (·.name)).Nodup) :
    (resolveDuplicates .reject ds).value = .error (.rejected (repeatedNames ds)) := by
  unfold resolveDuplicates
  rw [if_neg (mt repeatedNames_eq_nil_iff.mp h)]

/-- A policy lets declarations pass as they are when nothing is repeated, and one policy keeps the
last occurrences. -/
theorem eq_of_resolveDuplicates {policy : DuplicatePolicy} {kept : List Declaration}
    (h : (resolveDuplicates policy ds).value = .ok kept) :
    ((ds.map (·.name)).Nodup ∧ kept = ds) ∨ kept = lastOccurrences ds := by
  by_cases hnodup : (ds.map (·.name)).Nodup
  · rw [resolveDuplicates_of_nodup _ hnodup] at h
    exact .inl ⟨hnodup, (Except.ok.inj h).symm⟩
  · cases policy with
    | reject =>
        rw [value_resolveDuplicates_reject hnodup] at h
        exact nomatch h
    | lastWins =>
        rw [value_resolveDuplicates_lastWins] at h
        exact .inr (Except.ok.inj h).symm
    | unknown other =>
        unfold resolveDuplicates at h
        rw [if_neg (mt repeatedNames_eq_nil_iff.mp hnodup)] at h
        exact nomatch h

/-- What a policy lets pass names nothing twice. -/
theorem nodup_of_resolveDuplicates {policy : DuplicatePolicy} {kept : List Declaration}
    (h : (resolveDuplicates policy ds).value = .ok kept) : (kept.map (·.name)).Nodup := by
  rcases eq_of_resolveDuplicates h with ⟨hnodup, rfl⟩ | rfl
  · exact hnodup
  · exact nodup_names_lastOccurrences ds

theorem mem_names_of_resolveDuplicates {policy : DuplicatePolicy} {kept : List Declaration}
    (h : (resolveDuplicates policy ds).value = .ok kept) :
    name ∈ kept.map (·.name) ↔ name ∈ ds.map (·.name) := by
  rcases eq_of_resolveDuplicates h with ⟨-, rfl⟩ | rfl
  · exact Iff.rfl
  · exact mem_names_lastOccurrences

/-! ## Files -/

/-- The declarations of variables in files, by the order of the files and then of their texts. -/
def occurrences (m : Hcl.BraceMode) (files : List (Text × Text)) : List Declaration :=
  files.flatMap fun file => (Hcl.scanVariables m file.2).value

namespace ModuleContext

/-- Sorted files stand in the order of their names. -/
theorem pairwise_sortFiles (files : List (Text × Text)) :
    (sortFiles files).Pairwise fun a b => le a.1 b.1 = true :=
  List.pairwise_mergeSort (fun a b c => le_trans (s := a.1) (t := b.1) (u := c.1))
    (fun a b => le_total a.1 b.1) files

/-- Files with names of their own have one order by name, whatever the order in which they are
given. -/
theorem sortFiles_eq {files inOrder : List (Text × Text)} (hperm : files.Perm inOrder)
    (hordered : inOrder.Pairwise fun a b => le a.1 b.1 = true ∧ a.1 ≠ b.1) :
    sortFiles files = inOrder := by
  have hsorted : (sortFiles files).Perm inOrder := (List.mergeSort_perm files _).trans hperm
  have hdistinct : (inOrder.map (·.1)).Nodup :=
    List.pairwise_map.mpr (hordered.imp And.right)
  refine hsorted.eq_of_pairwise (fun a b ha hb hab hba => ?_) (pairwise_sortFiles files)
    (hordered.imp And.left)
  -- files that come before each other have one name
  exact List.inj_on_of_nodup_map hdistinct (hsorted.mem_iff.mp ha) hb (le_antisymm hab hba)

/-- The value of a build: the variables are resolved, and all else is what the files hold. -/
theorem value_build (m : Hcl.BraceMode) (policy : DuplicatePolicy) (info : ModuleMeta)
    (files : List (Text × Text)) :
    (build m policy info files).value
      = (resolveDuplicates policy (occurrences m (sortFiles files))).value.map fun inputs =>
        { info := info
          declarations := inputs
          classified := .ofList inputs
          outputs := (sortFiles files).flatMap fun file => (Hcl.scanOutputs m file.2).value
          files := sortFiles files } := by
  rw [build]
  simp only [Logged.value_bind, Logged.value_mapM, Logged.value_pure, List.flatMap_map]
  rfl

end ModuleContext

end ModuleDocs
