import ModuleDocs.Text.Basic

/-! # File trees

    A tree holds files and directories at locations.  The root is always
    there; everything else stands in a directory, only once, and under a name
    that a directory can hold.  These facts belong to the type, so what is
    read from a tree can rely on them.

    Main statements: after `put` the location holds what was put and all
    others hold what they held (`node?_put`), and after `remove` exactly the
    locations outside of what was removed are left (`node?_remove`). -/

namespace ModuleDocs

/-- Where something stands: the names on the way from the root. -/
abbrev Location := List Text

/-- A file with its bytes, or a directory. -/
inductive Node where
  | file (bytes : List UInt8)
  | directory
deriving DecidableEq, Repr

namespace Node

/-- What stands at a location, given the entries other than the root. -/
def lookup (entries : List (Location × Node)) (l : Location) : Option Node :=
  if l = [] then some directory else entries.lookup l

/-- The entries with a node put at a location, in place of what stands there. -/
def putInto (l : Location) (n : Node) : List (Location × Node) → List (Location × Node)
  | [] => [(l, n)]
  | (k, m) :: es => if k = l then (k, n) :: es else (k, m) :: putInto l n es

theorem lookup_putInto {l : Location} (hl : l ≠ []) (n : Node) (es : List (Location × Node))
    (k : Location) : lookup (putInto l n es) k = if k = l then some n else lookup es k := by
  by_cases hk : k = []
  · subst hk
    simp [lookup, Ne.symm hl]
  · simp only [lookup, if_neg hk]
    induction es with
    | nil =>
        by_cases h : k = l
        · simp [putInto, h]
        · have hb : (k == l) = false := by simp [h]
          simp [putInto, List.lookup_cons, h, hb]
    | cons e es ih =>
        obtain ⟨j, m⟩ := e
        by_cases hj : j = l
        · subst hj
          by_cases h : k = j
          · simp [putInto, h]
          · have hb : (k == j) = false := by simp [h]
            simp [putInto, List.lookup_cons, h, hb]
        -- an entry at another location stays where it is
        · by_cases h : k = j
          · subst h
            simp [putInto, hj]
          · have hb : (k == j) = false := by simp [h]
            simp [putInto, hj, List.lookup_cons, hb, ih]

theorem mem_keys_putInto {l k : Location} {n : Node} {es : List (Location × Node)} :
    k ∈ (putInto l n es).map (·.1) ↔ k = l ∨ k ∈ es.map (·.1) := by
  induction es with
  | nil => simp [putInto]
  | cons e es ih =>
      obtain ⟨j, m⟩ := e
      by_cases hj : j = l
      · subst hj
        simp [putInto]
      · simp only [putInto, if_neg hj, List.map_cons, List.mem_cons, ih]
        constructor
        · rintro (h | h | h) <;> simp [h]
        · rintro (h | h | h) <;> simp [h]

theorem nodup_keys_putInto {l : Location} {n : Node} {es : List (Location × Node)}
    (h : (es.map (·.1)).Nodup) : ((putInto l n es).map (·.1)).Nodup := by
  induction es with
  | nil => simp [putInto]
  | cons e es ih =>
      obtain ⟨j, m⟩ := e
      rw [List.map_cons, List.nodup_cons] at h
      by_cases hj : j = l
      · subst hj
        simpa [putInto] using h
      · simp only [putInto, if_neg hj, List.map_cons, List.nodup_cons]
        refine ⟨fun hm => ?_, ih h.2⟩
        rcases mem_keys_putInto.mp hm with hjl | hjm
        · exact hj hjl
        · exact h.1 hjm

theorem lookup_filter (keep : Location → Bool) (hk : keep [] = true)
    (es : List (Location × Node)) (l : Location) :
    lookup (es.filter fun e => keep e.1) l = if keep l then lookup es l else none := by
  by_cases hl : l = []
  · subst hl
    simp [lookup, hk]
  · simp only [lookup, if_neg hl]
    induction es with
    | nil => simp
    | cons e es ih =>
        obtain ⟨j, m⟩ := e
        by_cases h : l = j
        · subst h
          cases hkeep : keep l
          · rw [List.filter_cons_of_neg (by simp [hkeep]), ih, if_neg (by simp [hkeep])]
            simp
          · simp [hkeep]
        · have hb : (l == j) = false := by simp [h]
          cases hkeep : keep j <;> simp [hkeep, List.lookup_cons, hb, ih]

end Node

/-- Whether a directory can hold something under a name: the name is not empty, does not stand for
the directory or the one above, and holds neither a slash nor a null character. -/
def isFileName (name : Text) : Bool :=
  name ≠ [] && name ≠ ['.'] && name ≠ ['.', '.'] && name.all fun c => c ≠ '/' && c ≠ '\x00'

/-- A tree of files and directories. -/
structure Tree where
  /-- What stands in the tree besides its root. -/
  entries : List (Location × Node)
  /-- A location holds one thing. -/
  distinct : (entries.map (·.1)).Nodup
  /-- The names on the way to what stands in the tree are names of files. -/
  named : ∀ l ∈ entries.map (·.1), ∀ name ∈ l, isFileName name = true
  /-- What stands in the tree stands in a directory. -/
  rooted : ∀ l, l ≠ [] → Node.lookup entries l ≠ none →
    Node.lookup entries l.dropLast = some .directory

namespace Tree

/-- The tree with nothing but its root. -/
def empty : Tree where
  entries := []
  distinct := List.nodup_nil
  named := fun l hl => absurd hl List.not_mem_nil
  rooted := fun l hl hn => absurd (by simp [Node.lookup, hl]) hn

/-- What stands at a location. -/
def node? (t : Tree) (l : Location) : Option Node := Node.lookup t.entries l

/-- Whether a directory stands at a location. -/
def isDirectory (t : Tree) (l : Location) : Bool := t.node? l = some .directory

/-- Whether a file could be put at a location: it is in a directory and is none itself, and its
name is one of a file. -/
def HasRoom (t : Tree) (l : Location) : Prop :=
  l ≠ [] ∧ t.node? l.dropLast = some .directory ∧ t.node? l ≠ some .directory ∧
    ∀ name ∈ l.getLast?, isFileName name = true

instance (t : Tree) (l : Location) : Decidable (t.HasRoom l) :=
  inferInstanceAs (Decidable (_ ∧ _ ∧ _ ∧ _))

@[simp] theorem node?_nil (t : Tree) : t.node? [] = some .directory := rfl

/-- Whatever stands in a tree stands in a directory. -/
theorem node?_dropLast (t : Tree) {l : Location} (hl : l ≠ []) (h : t.node? l ≠ none) :
    t.node? l.dropLast = some .directory := t.rooted l hl h

/-- The names on the way to what stands in a tree are names of files. -/
theorem isFileName_of_node? (t : Tree) {l : Location} (h : t.node? l ≠ none) :
    ∀ name ∈ l, isFileName name = true := by
  by_cases hl : l = []
  · subst hl
    exact fun name hname => absurd hname List.not_mem_nil
  · rw [node?, Node.lookup, if_neg hl] at h
    obtain ⟨n, hn⟩ := Option.ne_none_iff_exists'.mp h
    obtain ⟨before, after, hentries, -⟩ := List.lookup_eq_some_iff.mp hn
    exact t.named l (hentries ▸ List.mem_map.mpr ⟨(l, n), by simp, rfl⟩)

theorem dropLast_ne_self {l : Location} (h : l ≠ []) : l.dropLast ≠ l := by
  intro he
  have hlen := congrArg List.length he
  have hpos := List.length_pos_iff.mpr h
  rw [List.length_dropLast] at hlen
  omega

/-- The tree with a node put at a location that has room for it. -/
def put (t : Tree) (l : Location) (n : Node) (h : t.HasRoom l) : Tree where
  entries := Node.putInto l n t.entries
  distinct := Node.nodup_keys_putInto t.distinct
  named := by
    intro k hk name hname
    rcases Node.mem_keys_putInto.mp hk with rfl | hk
    · obtain ⟨hl, hparent, -, hlast⟩ := h
      rw [← List.dropLast_concat_getLast hl, List.mem_append, List.mem_singleton] at hname
      rcases hname with hname | rfl
      · exact t.isFileName_of_node? (by simp [hparent]) name hname
      · exact hlast _ (List.getLast?_eq_some_getLast hl)
    · exact t.named k hk name hname
  rooted := by
    intro k hk hn
    obtain ⟨hl, hparent, hnode, -⟩ := h
    rw [Node.lookup_putInto hl] at hn ⊢
    by_cases hkl : k = l
    · subst hkl
      rw [if_neg (dropLast_ne_self hk)]
      exact hparent
    · rw [if_neg hkl] at hn
      have hdir := t.rooted k hk hn
      by_cases hd : k.dropLast = l
      · exact absurd (hd ▸ hdir) hnode
      · rw [if_neg hd]
        exact hdir

/-- Putting a node changes what stands at its location and nothing else. -/
@[simp] theorem node?_put (t : Tree) (l : Location) (n : Node) (h : t.HasRoom l) (k : Location) :
    (t.put l n h).node? k = if k = l then some n else t.node? k :=
  Node.lookup_putInto h.1 n t.entries k

/-- Whether a location is another one or below it. -/
def isAtOrBelow (top l : Location) : Bool := decide (top <+: l)

/-- The root is below nothing but itself. -/
theorem root_not_below {top : Location} (h : top ≠ []) : (!isAtOrBelow top []) = true := by
  cases top with
  | nil => exact absurd rfl h
  | cons => simp [isAtOrBelow]

/-- The tree without what stands at a location and below it. -/
def remove (t : Tree) (top : Location) (h : top ≠ []) : Tree where
  entries := t.entries.filter fun e => !isAtOrBelow top e.1
  distinct := (t.distinct.sublist (List.Sublist.map _ List.filter_sublist))
  named := fun l hl => t.named l ((List.Sublist.map _ List.filter_sublist).mem hl)
  rooted := by
    intro l hl hn
    rw [Node.lookup_filter (fun k => !isAtOrBelow top k) (root_not_below h)] at hn ⊢
    by_cases hkeep : (!isAtOrBelow top l) = true
    · rw [if_pos hkeep] at hn
      have hparent : (!isAtOrBelow top l.dropLast) = true := by
        by_cases hb : isAtOrBelow top l.dropLast = true
        · have habove : isAtOrBelow top l = true := by
            simp only [isAtOrBelow, decide_eq_true_eq] at hb ⊢
            have hstart := List.dropLast_prefix l
            exact hb.trans hstart
          simp [habove] at hkeep
        · simpa using hb
      rw [if_pos hparent]
      exact t.rooted l hl hn
    · exact absurd (if_neg hkeep) hn

/-- Removing takes away what stands at a location and below it, and nothing else. -/
@[simp] theorem node?_remove (t : Tree) (top : Location) (h : top ≠ []) (k : Location) :
    (t.remove top h).node? k = if isAtOrBelow top k then none else t.node? k := by
  have hk := Node.lookup_filter (fun k => !isAtOrBelow top k) (root_not_below h) t.entries k
  cases hb : isAtOrBelow top k <;> simpa [node?, remove, hb] using hk

/-- The names in the directory at a location. -/
def namesIn (t : Tree) (l : Location) : List Text :=
  t.entries.filterMap fun e => if e.1.dropLast = l then e.1.getLast? else none

/-- The files below a location: the names from there on, and the bytes. -/
def filesBelow (t : Tree) (l : Location) : List (List Text × List UInt8) :=
  t.entries.filterMap fun
    | (k, .file bytes) => if isAtOrBelow l k then some (k.drop l.length, bytes) else none
    | (_, .directory) => none

end Tree

end ModuleDocs
