import ModuleDocs.Proofs.Hcl.WrittenValues

/-! # The end of an expression

    An expression ends at the first place where no string and no bracket is
    open and a newline, a comment or a closing bracket begins; if there is no
    such place, it ends with the text.  So it goes on behind a newline exactly
    when a string or a bracket is open there.

    The reader keeps its state and the number of open brackets and looks at
    one character after another.  Whether something is open at a place is said
    of the whole text before that place, by the state in which it ends and the
    brackets counted in it.  To tie the two, places are spoken of for a text
    that begins in any state and with any number of open brackets; then one
    character more changes the place, the state and the number together. -/

namespace ModuleDocs.Hcl

open Text

/-! ## Open strings and brackets -/

/-- How many brackets are open behind a character. -/
def depthAfter (s : ExpressionState) (depth : Nat) (c : Char) : Nat :=
  if s = .code then depth + (isOpening c).toNat - (isClosing c).toNat else depth

/-- Whether a string or a bracket is open behind a text that begins in state `s` with `depth` open
brackets. -/
def IsInside (s : ExpressionState) (depth : Nat) (t : Text) : Prop :=
  stateAfter s t ≠ .code ∨ closed (bareChars s t) < opened (bareChars s t) + depth

instance (s : ExpressionState) (depth : Nat) (t : Text) : Decidable (IsInside s depth t) :=
  inferInstanceAs (Decidable (_ ∨ _))

/-- Whether the character `c`, with `following` behind it, ends an expression when nothing is
open. -/
def isEnd (c : Char) (following : Option Char) : Bool := isClosing c || endsExpression c following

/-- Whether an expression that begins in state `s` with `depth` open brackets ends at a place. -/
def EndsAt (s : ExpressionState) (depth : Nat) (t : Text) (n : Nat) : Prop :=
  ¬ IsInside s depth (t.take n) ∧ ∃ c ∈ t[n]?, isEnd c t[n + 1]? = true

section Step

variable {s : ExpressionState} {depth : Nat} {c : Char} {t : Text}

theorem isInside_nil : IsInside s depth [] ↔ s ≠ .code ∨ 0 < depth := by
  simp [IsInside, stateAfter, bareChars, closed, opened]

/-- Behind a character that closes no bracket too many, the same is open as with the brackets that
are open behind it. -/
theorem isInside_cons (hcovered : s = .code → isClosing c = true → 0 < depth) (t : Text) :
    IsInside s depth (c :: t) ↔ IsInside (s.next c) (depthAfter s depth c) t := by
  unfold IsInside
  refine or_congr Iff.rfl ?_
  rw [bareChars, depthAfter]
  by_cases hs : s = .code
  · rw [if_pos hs, if_pos hs, closed_cons, opened_cons]
    have hdepth : (isClosing c).toNat ≤ depth := by
      cases hclosing : isClosing c with
      | false => exact Nat.zero_le depth
      | true => exact hcovered hs hclosing
    omega
  · rw [if_neg hs, if_neg hs]

theorem endsAt_zero :
    EndsAt s depth (c :: t) 0 ↔ (s = .code ∧ depth = 0) ∧ isEnd c t.head? = true := by
  unfold EndsAt
  rw [List.take_zero, isInside_nil]
  simp [List.head?_eq_getElem?]

/-- At a later character an expression ends as one that begins behind the first character. -/
theorem endsAt_succ (hcovered : s = .code → isClosing c = true → 0 < depth) (n : Nat) :
    EndsAt s depth (c :: t) (n + 1) ↔ EndsAt (s.next c) (depthAfter s depth c) t n := by
  unfold EndsAt
  rw [List.take_succ_cons, isInside_cons hcovered, List.getElem?_cons_succ,
    List.getElem?_cons_succ]

/-- A character that ends an expression neither opens a string nor a bracket. -/
theorem not_opening_of_isEnd {following : Option Char} (h : isEnd c following = true) :
    c ≠ '"' ∧ isOpening c = false := by
  simp only [isEnd, isClosing, endsExpression, Bool.or_eq_true, Bool.and_eq_true,
    decide_eq_true_eq] at h
  rcases h with ((rfl | rfl) | rfl) | ((rfl | rfl) | ⟨rfl, -⟩) <;> exact ⟨by decide, by decide⟩

/-- The reader stops where the expression ends. -/
theorem expressionSpan_of_endsAt (h : EndsAt s depth (c :: t) 0) :
    expressionSpan s depth (c :: t) = [] := by
  obtain ⟨⟨rfl, rfl⟩, hend⟩ := endsAt_zero.mp h
  obtain ⟨hquote, hopening⟩ := not_opening_of_isEnd hend
  rw [expressionSpan_code, if_neg hquote, if_neg (by simp [hopening])]
  split
  · rfl
  · next hclosing =>
      rw [isEnd, Bool.eq_false_iff.mpr hclosing, Bool.false_or] at hend
      rw [if_pos ⟨rfl, hend⟩]

/-- Where the expression does not end, the reader takes one character and goes on with the state and
the open brackets behind it. -/
theorem expressionSpan_of_not_endsAt (h : ¬ EndsAt s depth (c :: t) 0) :
    (s = .code → isClosing c = true → 0 < depth) ∧
      expressionSpan s depth (c :: t)
        = c :: expressionSpan (s.next c) (depthAfter s depth c) t := by
  cases s with
  | escaped =>
      refine ⟨fun hs => ?_, rfl⟩
      cases hs
  | quoted =>
      refine ⟨fun hs => ?_, rfl⟩
      cases hs
  | code =>
      -- outside all brackets the character does not end the expression, else it would end here
      have hgo : depth = 0 → isEnd c t.head? = false := fun hdepth =>
        Bool.eq_false_iff.mpr fun hend => h (endsAt_zero.mpr ⟨⟨rfl, hdepth⟩, hend⟩)
      have hcovered : isClosing c = true → 0 < depth := by
        intro hclosing
        refine Nat.pos_of_ne_zero fun hdepth => ?_
        have hbare := hgo hdepth
        rw [isEnd, hclosing] at hbare
        cases hbare
      refine ⟨fun _ => hcovered, ?_⟩
      rw [expressionSpan_code, depthAfter, if_pos rfl, ExpressionState.next]
      by_cases hquote : c = '"'
      · subst hquote
        rfl
      rw [if_neg hquote, if_neg hquote]
      by_cases hopening : isOpening c = true
      · rw [if_pos hopening, hopening, isClosing_of_isOpening hopening]
        rfl
      rw [if_neg hopening, Bool.eq_false_iff.mpr hopening]
      by_cases hclosing : isClosing c = true
      · rw [if_pos hclosing, hclosing]
        cases depth with
        | zero => exact absurd (hcovered hclosing) (Nat.lt_irrefl 0)
        | succ depth => rfl
      have hends : ¬ (depth = 0 ∧ endsExpression c t.head? = true) := by
        rintro ⟨hdepth, hend⟩
        have hbare := hgo hdepth
        rw [isEnd, hend, Bool.or_true] at hbare
        cases hbare
      rw [if_neg hclosing, if_neg hends, Bool.eq_false_iff.mpr hclosing]
      rfl

end Step

/-! ## The first end -/

/-- What the reader takes ends at the first end of the expression, or with the text. -/
theorem expressionSpan_ends (s : ExpressionState) (depth : Nat) (t : Text) :
    expressionSpan s depth t <+: t ∧
      (∀ i < (expressionSpan s depth t).length, ¬ EndsAt s depth t i) ∧
      ((expressionSpan s depth t).length < t.length →
        EndsAt s depth t (expressionSpan s depth t).length) := by
  induction t generalizing s depth with
  | nil =>
      have hnil : expressionSpan s depth [] = [] := by rw [expressionSpan]
      rw [hnil]
      exact ⟨List.nil_prefix, fun i hi => absurd hi (Nat.not_lt_zero i),
        fun h => absurd h (Nat.lt_irrefl 0)⟩
  | cons c t ih =>
      by_cases hend : EndsAt s depth (c :: t) 0
      · rw [expressionSpan_of_endsAt hend]
        exact ⟨List.nil_prefix, fun i hi => absurd hi (Nat.not_lt_zero i), fun _ => hend⟩
      -- places are counted from the next character on in the induction
      · obtain ⟨hcovered, hspan⟩ := expressionSpan_of_not_endsAt hend
        obtain ⟨hcut, hbefore, hlast⟩ := ih (s.next c) (depthAfter s depth c)
        rw [hspan, List.length_cons]
        refine ⟨(List.prefix_cons_inj c).mpr hcut, ?_, ?_⟩
        · intro i hi
          cases i with
          | zero => exact hend
          | succ i =>
              rw [endsAt_succ hcovered]
              exact hbefore i (Nat.lt_of_succ_lt_succ hi)
        · intro hshort
          rw [endsAt_succ hcovered]
          exact hlast (Nat.lt_of_succ_lt_succ hshort)

/-! ## Places in the text -/

/-- Whether, for a text that is read from a position on, a string or a bracket is open at a
place. -/
def IsInsideAt (text : Text) (position i : Nat) : Prop :=
  IsInside .code 0 (text.extract position i)

/-- Whether an expression that begins at a position can end at a place: nothing is open there, and a
newline, the start of a comment or a closing bracket stands there. -/
def CanEndAt (text : Text) (position i : Nat) : Prop :=
  position ≤ i ∧ ¬ IsInsideAt text position i ∧ ∃ c ∈ text[i]?, isEnd c text[i + 1]? = true

/-- The first place at which an expression that begins at a position can end, or the end of the text
when there is none. -/
def IsExpressionEnd (text : Text) (position e : Nat) : Prop :=
  IsLeast {i | CanEndAt text position i} e ∨
    (∀ i, ¬ CanEndAt text position i) ∧ e = text.length

/-- Places in a text and in its rest. -/
theorem canEndAt_add_iff {text : Text} {position n : Nat} :
    CanEndAt text position (position + n) ↔ EndsAt .code 0 (text.drop position) n := by
  unfold CanEndAt EndsAt IsInsideAt
  rw [List.extract, Nat.add_sub_cancel_left, List.getElem?_drop, List.getElem?_drop, Nat.add_assoc]
  exact and_iff_right (Nat.le_add_right position n)

/-- What is read of an expression stands between its position and its end. -/
theorem exists_isExpressionEnd (text : Text) (position : Nat) :
    ∃ e, IsExpressionEnd text position e ∧
      expressionSpan .code 0 (text.drop position) = text.extract position e := by
  obtain ⟨hcut, hbefore, hlast⟩ := expressionSpan_ends .code 0 (text.drop position)
  have htext := List.prefix_iff_eq_take.mp hcut
  -- either something stops the expression, or it takes the whole rest of the text
  by_cases hshort : (expressionSpan .code 0 (text.drop position)).length
      < (text.drop position).length
  · refine ⟨position + (expressionSpan .code 0 (text.drop position)).length, .inl ⟨?_, ?_⟩, ?_⟩
    · exact canEndAt_add_iff.mpr (hlast hshort)
    · intro i hi
      obtain ⟨n, rfl⟩ := Nat.exists_eq_add_of_le hi.1
      by_contra hearly
      exact hbefore n (by omega) (canEndAt_add_iff.mp hi)
    · rw [List.extract, Nat.add_sub_cancel_left]
      exact htext
  · have hall : expressionSpan .code 0 (text.drop position) = text.drop position :=
      hcut.eq_of_length_le (Nat.le_of_not_lt hshort)
    refine ⟨text.length, .inr ⟨fun i hi => ?_, rfl⟩, ?_⟩
    · obtain ⟨n, rfl⟩ := Nat.exists_eq_add_of_le hi.1
      obtain ⟨c, hc, -⟩ := hi.2.2
      obtain ⟨hplace, -⟩ := List.getElem?_eq_some_iff.mp hc
      refine hbefore n ?_ (canEndAt_add_iff.mp hi)
      rw [hall, List.length_drop]
      omega
    · rw [hall, List.extract, ← List.length_drop, List.take_length]

/-- Up to the end of an expression, a string or a bracket is open at the newlines behind which it
goes on and at no others. -/
theorem IsExpressionEnd.lt_iff_isInsideAt {text : Text} {position e i : Nat}
    (h : IsExpressionEnd text position e) (hposition : position ≤ i) (hi : i ≤ e)
    (hnewline : text[i]? = some '\n') : i < e ↔ IsInsideAt text position i := by
  have hcan : ¬ IsInsideAt text position i → CanEndAt text position i := fun houtside =>
    ⟨hposition, houtside, '\n', hnewline, rfl⟩
  rcases h with ⟨⟨-, houtside, -⟩, hleast⟩ | ⟨hnever, rfl⟩
  · constructor
    · intro hlt
      by_contra hbare
      exact absurd (hleast (hcan hbare)) (Nat.not_le_of_lt hlt)
    · rintro hinside
      refine Nat.lt_of_le_of_ne hi fun heq => houtside ?_
      rwa [← heq]
  · obtain ⟨hplace, -⟩ := List.getElem?_eq_some_iff.mp hnewline
    exact iff_of_true hplace (not_not.mp fun hbare => hnever i (hcan hbare))

/-- An expression goes up to its end, the white space around it left out, for every text and every
position.  It goes on behind a newline exactly when a string or a bracket is open there. -/
theorem readExpression_extract (text : Text) (position : Nat) :
    ∃ e, IsExpressionEnd text position e ∧
      readExpression text position = trim (text.extract position e) ∧
      ∀ i, position ≤ i → i ≤ e → text[i]? = some '\n' →
        (i < e ↔ IsInsideAt text position i) := by
  obtain ⟨e, he, hspan⟩ := exists_isExpressionEnd text position
  refine ⟨e, he, ?_, fun i => he.lt_iff_isInsideAt⟩
  rw [readExpression, expressionOf, hspan]

example : readExpression "a = [1,\n  \"]\\\"#\"] # b\nc = 2" 4 = ("[1,\n  \"]\\\"#\"]" : Text) := by
  decide

end ModuleDocs.Hcl
