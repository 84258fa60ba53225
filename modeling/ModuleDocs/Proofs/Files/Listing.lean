import ModuleDocs.Proofs.Files.Rewriting

/-! # What stands in a directory

    A directory is listed from the entries of its tree, and so are the files
    below it.  What is listed is what stands there, and it is listed once.

    A way leads down to each directory of a tree that a file system holds,
    since no name there is too long for a step.  Only the path as a whole can
    be too long. -/

namespace ModuleDocs

open Text

namespace Tree

variable {t : Tree} {l : Location} {name : Text} {names : List Text}

/-! ## Trees that a file system holds -/

/-- Whether a file system can hold a tree: its root was not put there, and a name takes at most 255
bytes. -/
structure IsStored (t : Tree) : Prop where
  root : [] ∉ t.entries.map (·.1)
  names : ∀ l ∈ t.entries.map (·.1), ∀ name ∈ l, byteCount name ≤ 255

/-- The tree with nothing but its root can be held. -/
theorem isStored_empty : empty.IsStored where
  root := List.not_mem_nil
  names := fun _ hl => absurd hl List.not_mem_nil

theorem IsStored.byteCount_le (h : t.IsStored) (hl : t.node? l ≠ none) :
    ∀ name ∈ l, byteCount name ≤ 255 := by
  by_cases hne : l = []
  · subst hne
    exact fun name hname => absurd hname List.not_mem_nil
  · exact h.names l (mem_keys_of_node? hne hl)

/-- A node can be put into a tree under a name that is short enough. -/
theorem IsStored.put (h : t.IsStored) {n : Node} (hroom : t.HasRoom l)
    (hname : ∀ name ∈ l.getLast?, byteCount name ≤ 255) : (t.put l n hroom).IsStored := by
  obtain ⟨hl, hparent, -, -⟩ := hroom
  constructor
  · intro hroot
    rcases Node.mem_keys_putInto.mp hroot with heq | hroot
    · exact hl heq.symm
    · exact h.root hroot
  · intro k hk name hmem
    rcases Node.mem_keys_putInto.mp hk with rfl | hk
    · rw [← List.dropLast_concat_getLast hl, List.mem_append, List.mem_singleton] at hmem
      rcases hmem with hmem | rfl
      · exact h.byteCount_le (by simp [hparent]) name hmem
      · exact hname _ (List.getLast?_eq_some_getLast hl)
    · exact h.names k hk name hmem

/-- What is left of a tree can be held as well. -/
theorem IsStored.remove (h : t.IsStored) (hl : l ≠ []) : (t.remove l hl).IsStored := by
  have hkept : ∀ k ∈ (t.remove l hl).entries.map (·.1), k ∈ t.entries.map (·.1) :=
    (List.Sublist.map _ List.filter_sublist).subset
  exact ⟨fun hroot => h.root (hkept _ hroot), fun k hk => h.names k (hkept k hk)⟩

theorem forall_byteCount_le_of_walk {k : Location} {names : List Text}
    (hk : ∀ name ∈ k, byteCount name ≤ 255) (hl : t.walk k names = .ok l) :
    ∀ name ∈ l, byteCount name ≤ 255 := by
  induction names generalizing k with
  | nil =>
      obtain rfl := Except.ok.inj hl
      exact hk
  | cons name names ih =>
      refine ih ?_ (walk_cons hl).2
      have hshort := byteCount_le_of_walk hl
      unfold Path.step
      split
      · exact fun other hother => hk other (List.mem_of_mem_dropLast hother)
      · intro other hother
        rcases List.mem_append.mp hother with hother | hother
        · exact hk other hother
        · exact List.mem_singleton.mp hother ▸ hshort

/-- A path that leads anywhere from a place without long names leads to a place without long
names. -/
theorem byteCount_le_of_locate {cwd : Location} {p : Path}
    (hcwd : ∀ name ∈ cwd, byteCount name ≤ 255) (hl : t.locate cwd p = .ok l) :
    ∀ name ∈ l, byteCount name ≤ 255 := by
  unfold locate at hl
  split at hl
  · exact nomatch hl
  · split at hl
    · exact nomatch hl
    · refine forall_byteCount_le_of_walk ?_ hl
      split
      · exact fun name hname => absurd hname List.not_mem_nil
      · exact hcwd

/-- Writing a file leaves a tree that can be held. -/
theorem IsStored.write {t' : Tree} {cwd : Location} {p : Path} {bytes : List UInt8}
    (h : t.IsStored) (hcwd : ∀ name ∈ cwd, byteCount name ≤ 255)
    (hwrite : t.write cwd p bytes = .ok t') : t'.IsStored := by
  unfold Tree.write at hwrite
  split at hwrite
  · cases hwrite
  · next l hl =>
      split at hwrite
      · next hroom =>
          obtain rfl := Except.ok.inj hwrite
          exact h.put hroom fun name hname =>
            byteCount_le_of_locate hcwd hl name (List.mem_of_getLast? hname)
      · cases hwrite

/-- Making a directory leaves a tree that can be held. -/
theorem IsStored.makeDirectory {t' : Tree} {cwd : Location} {p : Path} (h : t.IsStored)
    (hcwd : ∀ name ∈ cwd, byteCount name ≤ 255)
    (hmake : t.makeDirectory cwd p = .ok t') : t'.IsStored := by
  unfold Tree.makeDirectory at hmake
  split at hmake
  · cases hmake
  · next l hl =>
      split at hmake
      · cases hmake
      · split at hmake
        · next hroom =>
            obtain rfl := Except.ok.inj hmake
            exact h.put hroom fun name hname =>
              byteCount_le_of_locate hcwd hl name (List.mem_of_getLast? hname)
        · cases hmake

/-! ## Entries -/

/-- The entries of a tree are what stands in it besides its root. -/
theorem mem_entries_iff {n : Node} (hl : l ≠ []) : (l, n) ∈ t.entries ↔ t.node? l = some n := by
  rw [node?, Node.lookup, if_neg hl, List.lookup_eq_some_iff]
  constructor
  · intro hentry
    obtain ⟨before, after, hentries⟩ := List.append_of_mem hentry
    refine ⟨before, after, hentries, fun e he => ?_⟩
    -- a location is listed once, so no entry before this one is at the same place
    have hdistinct := t.distinct
    rw [hentries, List.map_append, List.map_cons, List.nodup_append] at hdistinct
    obtain ⟨-, -, hapart⟩ := hdistinct
    have hne := hapart e.1 (List.mem_map_of_mem he) l List.mem_cons_self
    simpa using hne.symm
  · rintro ⟨before, after, hentries, -⟩
    rw [hentries]
    simp

/-- The names in a directory are those under which something stands there. -/
theorem mem_namesIn_iff : name ∈ t.namesIn l ↔ t.node? (l ++ [name]) ≠ none := by
  have hne : l ++ [name] ≠ [] := List.concat_ne_nil name l
  constructor
  · intro hmem
    obtain ⟨⟨k, n⟩, hentry, hname⟩ := List.mem_filterMap.mp hmem
    split at hname
    · next hparent =>
        obtain rfl : l ++ [name] = k := hparent ▸ List.dropLast_append_getLast? name hname
        rw [(mem_entries_iff hne).mp hentry]
        exact Option.some_ne_none n
    · exact nomatch hname
  · intro hnode
    obtain ⟨⟨k, n⟩, hentry, rfl⟩ := List.mem_map.mp (mem_keys_of_node? hne hnode)
    refine List.mem_filterMap.mpr ⟨_, hentry, ?_⟩
    rw [if_pos List.dropLast_concat, List.getLast?_concat]

/-- A directory lists no name twice. -/
theorem nodup_namesIn (t : Tree) (l : Location) : (t.namesIn l).Nodup := by
  have hplace : ∀ {e : Location × Node} {name : Text},
      name ∈ (if e.1.dropLast = l then e.1.getLast? else none) → e.1 = l ++ [name] := by
    intro e name hname
    split at hname
    · next hparent => exact (hparent ▸ List.dropLast_append_getLast? name hname).symm
    · exact nomatch hname
  unfold namesIn
  rw [List.nodup_iff_pairwise_ne, List.pairwise_filterMap]
  have hdistinct := List.pairwise_map.mp t.distinct
  refine hdistinct.imp fun hne name hname name' hname' heq => hne ?_
  rw [hplace hname, hplace hname', heq]

/-- The files below a location are those that stand there. -/
theorem IsStored.mem_filesBelow_iff (h : t.IsStored) {bytes : List UInt8} :
    (names, bytes) ∈ t.filesBelow l ↔ t.node? (l ++ names) = some (.file bytes) := by
  constructor
  · intro hfile
    obtain ⟨⟨k, node⟩, hentry, hbelow⟩ := List.mem_filterMap.mp hfile
    have hk : k ≠ [] := fun hk => h.root (List.mem_map.mpr ⟨_, hentry, hk⟩)
    cases node with
    | directory => exact nomatch hbelow
    | file found =>
        dsimp only at hbelow
        split at hbelow
        · next hprefix =>
            obtain ⟨rest, rfl⟩ := of_decide_eq_true hprefix
            rw [List.drop_left] at hbelow
            obtain ⟨rfl, rfl⟩ := Prod.mk.inj (Option.some.inj hbelow)
            exact (mem_entries_iff hk).mp hentry
        · exact nomatch hbelow
  · intro hnode
    have hne : l ++ names ≠ [] := by
      intro hnil
      rw [hnil] at hnode
      exact nomatch hnode
    refine List.mem_filterMap.mpr ⟨_, (mem_entries_iff hne).mpr hnode, ?_⟩
    simp [isAtOrBelow]

/-! ## Ways down -/

/-- What something stands below is a directory. -/
theorem isDirectory_above (h : t.node? (l ++ name :: names) ≠ none) : t.isDirectory l = true := by
  refine decide_eq_true ?_
  induction names using List.reverseRecOn with
  | nil =>
      have hparent := t.node?_dropLast (List.concat_ne_nil name l) h
      rwa [List.dropLast_concat] at hparent
  | append_singleton names last ih =>
      rw [← List.cons_append, ← List.append_assoc] at h
      have hparent := t.node?_dropLast (List.concat_ne_nil last _) h
      rw [List.dropLast_concat] at hparent
      exact ih (by simp [hparent])

/-- A way leads down to each directory of a tree that can be held. -/
theorem IsStored.walk_down (h : t.IsStored) (hd : t.isDirectory (l ++ names) = true) :
    t.walk l names = .ok (l ++ names) := by
  induction names generalizing l with
  | nil => rw [List.append_nil, walk]
  | cons name names ih =>
      have hnode : t.node? (l ++ name :: names) ≠ none := by simp [of_decide_eq_true hd]
      have hmem : name ∈ l ++ name :: names := by simp
      obtain ⟨-, -, hdots, -, -⟩ := Path.ne_of_isFileName (t.isFileName_of_node? hnode name hmem)
      have hshort := Nat.not_lt.mpr (h.byteCount_le hnode name hmem)
      have happend : l ++ name :: names = l ++ [name] ++ names := List.append_cons l name names
      rw [walk, of_decide_eq_true (isDirectory_above hnode)]
      dsimp only
      rw [if_neg hshort, Path.step, if_neg hdots, happend]
      exact ih (happend ▸ hd)

/-- A path leads down to each directory of a tree that can be held, unless the path is too long. -/
theorem IsStored.locate_down (h : t.IsStored) {cwd : Location} {p : Path}
    (hl : t.locate cwd p = .ok l) (hd : t.isDirectory (l ++ names) = true)
    (hshort : isTooLong (p.below names) = false) :
    t.locate cwd (p.below names) = .ok (l ++ names) := by
  have hnode : t.node? (l ++ names) ≠ none := by simp [of_decide_eq_true hd]
  have hnames : ∀ name ∈ names, isFileName name = true := fun name hname =>
    t.isFileName_of_node? hnode name (List.mem_append_right l hname)
  rw [locate_below hl hnames, hshort, if_neg Bool.false_ne_true, h.walk_down hd]

end Tree

end ModuleDocs
