/-! # Texts

    A text is the list of its code points: an index counts code points, and
    a proof about a text goes by induction on the list.  This module holds
    the operations that are not about any one kind of character: finding a
    piece of text, joining, padding, lines and the order by code point. -/

namespace ModuleDocs

/-- A text is the list of its code points. -/
abbrev Text := List Char

instance : Coe String Text := ⟨String.toList⟩

namespace Text

/-- The text as a string of the standard library. -/
def toString (t : Text) : String := String.ofList t

/-- The decimal digits of a number. -/
def ofNat (n : Nat) : Text := Nat.toDigits 10 n

/-- The decimal digits of an integer, after a minus sign when it is negative. -/
def ofInt : Int → Text
  | .ofNat n => ofNat n
  | .negSucc n => '-' :: ofNat (n + 1)

/-! ## Finding a piece of text -/

/-- The rest of the text after `start`, when it begins so. -/
def dropPrefix? : Text → Text → Option Text
  | [], t => some t
  | _ :: _, [] => none
  | c :: start, d :: t => if c = d then dropPrefix? start t else none

/-- A text begins with `start` exactly when it is `start` and the rest. -/
theorem dropPrefix?_eq_some_iff {start t rest : Text} :
    dropPrefix? start t = some rest ↔ t = start ++ rest := by
  induction start generalizing t with
  | nil => simp [dropPrefix?]
  | cons c start ih =>
      cases t with
      | nil => simp [dropPrefix?]
      | cons d t =>
          by_cases hcd : c = d
          · simp [dropPrefix?, hcd, ih]
          · simp [dropPrefix?, hcd, Ne.symm hcd]

/-- What stands before and after the first occurrence of `piece`. -/
def splitAt? (piece : Text) : Text → Option (Text × Text)
  | [] => if piece = [] then some ([], []) else none
  | c :: t =>
    match dropPrefix? piece (c :: t) with
    | some after => some ([], after)
    | none => (splitAt? piece t).map fun (before, after) => (c :: before, after)

/-- The index of the first occurrence of `piece`. -/
def index? (piece t : Text) : Option Nat :=
  (splitAt? piece t).map fun parts => parts.1.length

/-- Whether `piece` occurs in the text. -/
def contains (t piece : Text) : Bool := (splitAt? piece t).isSome

/-- Splitting loses nothing: the two parts enclose the piece. -/
theorem append_of_splitAt? {piece t before after : Text}
    (h : splitAt? piece t = some (before, after)) : t = before ++ piece ++ after := by
  induction t generalizing before after with
  | nil =>
      simp only [splitAt?] at h
      split at h
      · next hp => cases h; simp [hp]
      · cases h
  | cons c t ih =>
      simp only [splitAt?] at h
      split at h
      · next rest hr =>
          cases h
          simp [dropPrefix?_eq_some_iff.mp hr]
      · obtain ⟨⟨b, a⟩, hs, he⟩ := Option.map_eq_some_iff.mp h
        cases he
        simp [ih hs]

/-! ## Joining, replacing and padding -/

/-- The parts with `separator` between each two. -/
def join (separator : Text) (parts : List Text) : Text := List.intercalate separator parts

/-- Every occurrence of the character `c` becomes `replacement`. -/
def replaceChar (c : Char) (replacement t : Text) : Text :=
  t.flatMap fun d => if d = c then replacement else [d]

/-- The text with spaces after it up to the given width. -/
def padRight (width : Nat) (t : Text) : Text := t ++ List.replicate (width - t.length) ' '

/-- The longest length among the texts. -/
def widest (ts : List Text) : Nat := ts.foldl (fun w t => max w t.length) 0

/-- The pieces between separators: one more than there are separators. -/
def pieces (separator : Char) : Text → List Text
  | [] => [[]]
  | c :: t =>
    match pieces separator t with
    | [] => [[c]]
    | piece :: rest => if c = separator then [] :: piece :: rest else (c :: piece) :: rest

/-- There is a piece even in an empty text. -/
theorem pieces_ne_nil (separator : Char) (t : Text) : pieces separator t ≠ [] := by
  cases t with
  | nil => simp [pieces]
  | cons c t =>
      rw [pieces]
      split
      · simp
      · split <;> simp

/-- The pieces with the separators between them again are the text. -/
theorem join_pieces (separator : Char) (t : Text) : join [separator] (pieces separator t) = t := by
  induction t with
  | nil => simp [pieces, join, List.intercalate]
  | cons c t ih =>
      rw [pieces]
      split
      · next h => exact absurd h (pieces_ne_nil separator t)
      · next piece rest h =>
          rw [h] at ih
          split
          · next hc => simp [join, List.intercalate, ← ih, hc]
          · cases rest <;> simp_all [join, List.intercalate]

/-- The pieces between newlines: one more than there are newlines. -/
def lines (t : Text) : List Text := pieces '\n' t

/-- The text up to the first newline. -/
def firstLine (t : Text) : Text := t.takeWhile (· != '\n')

/-! ## Order -/

/-- Texts are ordered by code point, a proper start before its extensions. -/
def le : Text → Text → Bool
  | [], _ => true
  | _ :: _, [] => false
  | c :: s, d :: t => if c = d then le s t else Nat.blt c.toNat d.toNat

theorem le_cons_cons {c d : Char} {s t : Text} :
    le (c :: s) (d :: t) = true ↔ c.toNat < d.toNat ∨ (c = d ∧ le s t = true) := by
  rw [le]
  by_cases h : c = d
  · subst h
    simp
  · simp [h]

/-- Of two texts one comes first. -/
theorem le_total (s t : Text) : (le s t || le t s) = true := by
  induction s generalizing t with
  | nil => simp [le]
  | cons c s ih =>
      cases t with
      | nil => simp [le]
      | cons d t =>
          rw [Bool.or_eq_true, le_cons_cons, le_cons_cons]
          rcases Nat.lt_trichotomy c.toNat d.toNat with h | h | h
          · exact Or.inl (Or.inl h)
          · have hcd : c = d := Char.toNat_inj.mp h
            subst hcd
            have := ih t
            rw [Bool.or_eq_true] at this
            rcases this with hle | hle
            · exact Or.inl (Or.inr ⟨rfl, hle⟩)
            · exact Or.inr (Or.inr ⟨rfl, hle⟩)
          · exact Or.inr (Or.inl h)

/-- The order is transitive. -/
theorem le_trans {s t u : Text} (hst : le s t = true) (htu : le t u = true) : le s u = true := by
  induction s generalizing t u with
  | nil => simp [le]
  | cons c s ih =>
      cases t with
      | nil => simp [le] at hst
      | cons d t =>
          cases u with
          | nil => simp [le] at htu
          | cons e u =>
              rw [le_cons_cons] at hst htu ⊢
              rcases hst with h | ⟨rfl, h⟩
              · rcases htu with k | ⟨rfl, _⟩
                · exact Or.inl (Nat.lt_trans h k)
                · exact Or.inl h
              · rcases htu with k | ⟨rfl, k⟩
                · exact Or.inl k
                · exact Or.inr ⟨rfl, ih h k⟩

/-- Texts that come before each other are equal. -/
theorem le_antisymm {s t : Text} (hst : le s t = true) (hts : le t s = true) : s = t := by
  induction s generalizing t with
  | nil =>
      cases t with
      | nil => rfl
      | cons => simp [le] at hts
  | cons c s ih =>
      cases t with
      | nil => simp [le] at hst
      | cons d t =>
          rw [le_cons_cons] at hst hts
          rcases hst with h | ⟨rfl, h⟩
          · rcases hts with k | ⟨rfl, _⟩
            · omega
            · omega
          · rcases hts with k | ⟨_, k⟩
            · omega
            · rw [ih h k]

/-- A text in its place in a list that is in increasing order. -/
def insertSorted (t : Text) : List Text → List Text
  | [] => [t]
  | u :: us => if le t u then t :: u :: us else u :: insertSorted t us

/-- The texts in increasing order, repeats kept. -/
def sort : List Text → List Text
  | [] => []
  | t :: ts => insertSorted t (sort ts)

theorem perm_insertSorted (t : Text) (us : List Text) : (insertSorted t us).Perm (t :: us) := by
  induction us with
  | nil => exact .refl _
  | cons u us ih =>
      unfold insertSorted
      split
      · exact .refl _
      · exact (ih.cons u).trans (.swap t u us)

/-- A list stays in increasing order. -/
theorem pairwise_insertSorted (t : Text) {us : List Text}
    (h : us.Pairwise fun s u => le s u = true) :
    (insertSorted t us).Pairwise fun s u => le s u = true := by
  induction us with
  | nil => exact List.pairwise_singleton _ t
  | cons u us ih =>
      obtain ⟨hu, hus⟩ := List.pairwise_cons.mp h
      unfold insertSorted
      split
      · next htu =>
          refine List.pairwise_cons.mpr ⟨fun v hv => ?_, h⟩
          rcases List.mem_cons.mp hv with rfl | hv
          · exact htu
          · exact le_trans htu (hu v hv)
      · next htu =>
          refine List.pairwise_cons.mpr ⟨fun v hv => ?_, ih hus⟩
          rcases List.mem_cons.mp ((perm_insertSorted t us).mem_iff.mp hv) with rfl | hv
          · simpa [htu] using le_total u v
          · exact hu v hv

/-- Sorting keeps the texts as they are. -/
theorem perm_sort (ts : List Text) : (sort ts).Perm ts := by
  induction ts with
  | nil => exact .refl _
  | cons t ts ih => exact (perm_insertSorted t (sort ts)).trans (ih.cons t)

@[simp] theorem mem_sort {t : Text} {ts : List Text} : t ∈ sort ts ↔ t ∈ ts :=
  (perm_sort ts).mem_iff

/-- In a sorted list each text comes before those that follow it. -/
theorem pairwise_sort (ts : List Text) : (sort ts).Pairwise fun s t => le s t = true := by
  induction ts with
  | nil => exact .nil
  | cons t ts ih => exact pairwise_insertSorted t ih

end Text

end ModuleDocs
