import ModuleDocs.Proofs.Files.Places

/-! # Writing files of one name

    Files of one name are written in some directories of a tree.  That makes
    no directory and takes none away, so every way through the tree leads
    where it led; the other directories are as they were, and so is
    everything else in the directories that were written to.

    How often and in which order the files were written does not matter for
    any of this. -/

namespace ModuleDocs

namespace Node

variable {l : Location} {n : Node} {es : List (Location × Node)}

/-- What does not see a location does not see what is put there. -/
theorem filterMap_putInto {α : Type} {f : Location × Node → Option α} (h : ∀ n, f (l, n) = none) :
    (putInto l n es).filterMap f = es.filterMap f := by
  induction es with
  | nil => simp [putInto, h]
  | cons e es ih =>
      obtain ⟨k, m⟩ := e
      rw [putInto]
      by_cases hk : k = l
      · subst hk
        rw [if_pos rfl, List.filterMap_cons_none (h n), List.filterMap_cons_none (h m)]
      · rw [if_neg hk, List.filterMap_cons, List.filterMap_cons, ih]

/-- Putting what stands there changes nothing. -/
theorem putInto_self (h : es.lookup l = some n) : putInto l n es = es := by
  induction es with
  | nil => exact nomatch h
  | cons e es ih =>
      obtain ⟨k, m⟩ := e
      rw [putInto]
      by_cases hk : k = l
      · subst hk
        rw [List.lookup_cons_self] at h
        rw [if_pos rfl, Option.some.inj h]
      · have hb : (l == k) = false := by simp [Ne.symm hk]
        rw [List.lookup_cons, hb] at h
        rw [if_neg hk, ih h]

end Node

namespace Tree

/-- Trees with the same entries are the same. -/
theorem ext_of {t t' : Tree} (h : t.entries = t'.entries) : t = t' := by
  cases t
  cases t'
  cases h
  rfl

/-- What stands in a tree besides the root is one of its entries. -/
theorem mem_keys_of_node? {t : Tree} {l : Location} (hl : l ≠ []) (h : t.node? l ≠ none) :
    l ∈ t.entries.map (·.1) := by
  rw [node?, Node.lookup, if_neg hl] at h
  obtain ⟨n, hn⟩ := Option.ne_none_iff_exists'.mp h
  obtain ⟨before, after, hentries, -⟩ := List.lookup_eq_some_iff.mp hn
  rw [hentries]
  simp

theorem put_self {t : Tree} {l : Location} {n : Node} (hroom : t.HasRoom l)
    (h : t.node? l = some n) : t.put l n hroom = t := by
  rw [node?, Node.lookup, if_neg hroom.1] at h
  exact ext_of (Node.putInto_self h)

/-! ## Agreement about a directory -/

/-- Whether two trees agree, in the directory at `l`, about the entries of the names to keep. -/
structure AgreesAt (keep : Text → Bool) (l : Location) (t t' : Tree) : Prop where
  names : (t.namesIn l).filter keep = (t'.namesIn l).filter keep
  entries : ∀ name, keep name = true → t.node? (l ++ [name]) = t'.node? (l ++ [name])

/-! ## Rewriting -/

/-- Whether a tree is left when files called `name` are written in directories of `dirs`, one after
the other. -/
inductive Rewritten (name : Text) (dirs : Location → Prop) : Tree → Tree → Prop where
  /-- Nothing is written. -/
  | refl (t : Tree) : Rewritten name dirs t t
  /-- One more file is written. -/
  | put {t t' : Tree} {l : Location} (h : Rewritten name dirs t t') (hl : dirs l)
      (hroom : t'.HasRoom (l ++ [name])) (bytes : List UInt8) :
      Rewritten name dirs t (t'.put (l ++ [name]) (.file bytes) hroom)

namespace Rewritten

variable {name : Text} {dirs : Location → Prop} {t t' u : Tree} {l k : Location}

/-- Writing goes on. -/
theorem trans (h : Rewritten name dirs t t') (h' : Rewritten name dirs t' u) :
    Rewritten name dirs t u := by
  induction h' with
  | refl => exact h
  | put _ hl hroom bytes ih => exact ih.put hl hroom bytes

/-- Writing in fewer directories is writing in more. -/
theorem mono {more : Location → Prop} (hmore : ∀ l, dirs l → more l)
    (h : Rewritten name dirs t t') : Rewritten name more t t' := by
  induction h with
  | refl => exact .refl t
  | put _ hl hroom bytes ih => exact ih.put (hmore _ hl) hroom bytes

/-- Elsewhere everything stands as it stood. -/
theorem node? (h : Rewritten name dirs t t') (hk : ∀ l, dirs l → k ≠ l ++ [name]) :
    t.node? k = t'.node? k := by
  induction h with
  | refl => rfl
  | put _ hl hroom bytes ih => rw [node?_put, if_neg (hk _ hl), ih]

/-- The directories are the same. -/
theorem sameDirectories (h : Rewritten name dirs t t') : SameDirectories t t' := by
  intro k
  induction h with
  | refl => rfl
  | @put t' l _ hl hroom bytes ih =>
      rw [ih, isDirectory, isDirectory, node?_put]
      by_cases hk : k = l ++ [name]
      · -- the place that is written is no directory before and none after
        obtain ⟨-, -, hnone, -⟩ := hroom
        rw [if_pos hk, hk]
        simp [hnone]
      · rw [if_neg hk]

/-- What does not see the files that are written sees the same entries. -/
theorem filterMap_entries {α : Type} {f : Location × Node → Option α}
    (h : Rewritten name dirs t t') (hf : ∀ l, dirs l → ∀ n, f (l ++ [name], n) = none) :
    t.entries.filterMap f = t'.entries.filterMap f := by
  induction h with
  | refl => rfl
  | put _ hl hroom bytes ih => exact ih.trans (Node.filterMap_putInto (hf _ hl)).symm

/-- The names in a directory that is not written to are the same. -/
theorem namesIn (h : Rewritten name dirs t t') (hl : ¬ dirs l) : t.namesIn l = t'.namesIn l := by
  refine h.filterMap_entries fun k hk n => ?_
  have hne : k ≠ l := fun hkl => hl (hkl ▸ hk)
  simp [hne]

/-- The other names in a directory are the same. -/
theorem filter_namesIn (h : Rewritten name dirs t t') (l : Location) :
    (t.namesIn l).filter (· ≠ name) = (t'.namesIn l).filter (· ≠ name) := by
  unfold Tree.namesIn
  rw [List.filter_filterMap, List.filter_filterMap]
  refine h.filterMap_entries fun k _ n => ?_
  by_cases hk : k = l <;> simp [hk]

/-- A directory that is not written to is as it was. -/
theorem agreesAt (h : Rewritten name dirs t t') (hl : ¬ dirs l) :
    AgreesAt (fun _ => true) l t t' where
  names := by rw [h.namesIn hl]
  entries := by
    intro entry _
    refine h.node? fun k hk heq => hl ?_
    rwa [(List.append_inj' heq rfl).1]

/-- Every directory is as it was, apart from the files that are written. -/
theorem agreesAt_others (h : Rewritten name dirs t t') (l : Location) :
    AgreesAt (· ≠ name) l t t' where
  names := h.filter_namesIn l
  entries := by
    intro entry hentry
    refine h.node? fun k _ heq => ?_
    have hsame : entry = name := by simpa using (List.append_inj' heq rfl).2
    simp [hsame] at hentry

end Rewritten

end Tree

end ModuleDocs
