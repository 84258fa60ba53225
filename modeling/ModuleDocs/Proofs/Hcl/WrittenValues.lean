import ModuleDocs.Hcl.Expression
import ModuleDocs.Hcl.Literal
import ModuleDocs.Proofs.Text.Compound

/-! # Values read back

    A text between double quotes, escaped, is read back as it was.  A
    complete expression at the end of a line is read back to its last
    character: outside its strings every bracket it opens is closed, it ends
    outside a string, and neither a newline nor the start of a comment stands
    outside all brackets. -/

namespace ModuleDocs.Hcl

open Text

/-! ## Literals -/

/-- A character that is no backslash is read as it is, or it is the closing quote. -/
theorem quotedBody?_cons {quote c : Char} (hc : c ≠ '\\') (bare protect : Char → Bool)
    (t : Text) :
    quotedBody? quote bare protect (c :: t) =
      if c = quote then some ([], t)
      else if bare c then
        (quotedBody? quote bare protect t).map fun (body, rest) => (c :: body, rest)
      else none := by
  rw [quotedBody?.eq_def]
  split
  · next h => exact nomatch h
  · next h => exact absurd (List.cons.inj h).1 hc
  · next h => exact absurd (List.cons.inj h).1 hc
  · next h =>
      obtain ⟨rfl, rfl⟩ := List.cons.inj h
      rfl

/-- An escaped text is read up to the closing quote. -/
theorem quotedBody?_escape {t : Text} (ht : '\n' ∉ t) (rest : Text) :
    quotedBody? '"' (· != '\n') (fun _ => true) (escape t ++ '"' :: rest)
      = some (escape t, rest) := by
  induction t with
  | nil => rfl
  | cons c t ih =>
      have hnext := ih fun h => ht (List.mem_cons_of_mem c h)
      by_cases hc : c = '\\' ∨ c = '"'
      · rw [escape_cons_escaped hc]
        show (quotedBody? '"' _ _ (escape t ++ '"' :: rest)).map _ = _
        rw [hnext]
        rfl
      · obtain ⟨hback, hquote⟩ := not_or.mp hc
        have hline : (c != '\n') = true := by
          simpa using fun h : c = '\n' => ht (h ▸ List.mem_cons_self)
        rw [escape_cons_plain hc, List.cons_append, quotedBody?_cons hback, if_neg hquote,
          if_pos hline, hnext]
        rfl

/-- A text written between double quotes is read back. -/
theorem literal?_escape {t : Text} (ht : '\n' ∉ t) (rest : Text) :
    literal? ('"' :: escape t ++ '"' :: rest) = some t := by
  rw [List.cons_append, literal?, quotedBody?_escape ht]
  exact congrArg some (unescape_escape t)

/-- Escaping adds nothing but backslashes. -/
theorem mem_of_mem_escape {c : Char} (hc : c ≠ '\\') {t : Text} (h : c ∈ escape t) : c ∈ t := by
  obtain ⟨d, hd, hmem⟩ := List.mem_flatMap.mp h
  split at hmem
  · simp only [List.mem_cons, hc, List.not_mem_nil, or_false, false_or] at hmem
    exact hmem ▸ hd
  · exact List.mem_singleton.mp hmem ▸ hd

/-- A text without quotes and backslashes needs no escapes. -/
theorem escape_eq_self {t : Text} (hquote : '"' ∉ t) (hslash : '\\' ∉ t) : escape t = t := by
  induction t with
  | nil => rfl
  | cons c t ih =>
      have hplain : ¬ (c = '\\' ∨ c = '"') := by
        rintro (rfl | rfl)
        · exact hslash List.mem_cons_self
        · exact hquote List.mem_cons_self
      rw [escape_cons_plain hplain, ih (fun h => hquote (List.mem_cons_of_mem c h))
        fun h => hslash (List.mem_cons_of_mem c h)]

/-! ## Expressions -/

/-- Where the character behind `c` stands. -/
def ExpressionState.next (s : ExpressionState) (c : Char) : ExpressionState :=
  match s with
  | .code => if c = '"' then .quoted else .code
  | .quoted => if c = '\\' then .escaped else if c = '"' then .code else .quoted
  | .escaped => .quoted

/-- The state in which a text ends. -/
def stateAfter (s : ExpressionState) : Text → ExpressionState
  | [] => s
  | c :: t => stateAfter (s.next c) t

/-- The characters outside strings, each with the character that follows it. -/
def bareChars (s : ExpressionState) : Text → List (Char × Option Char)
  | [] => []
  | c :: t => if s = .code then (c, t.head?) :: bareChars (s.next c) t else bareChars (s.next c) t

/-- How many brackets are opened. -/
def opened (l : List (Char × Option Char)) : Nat := l.countP fun x => isOpening x.1

/-- How many brackets are closed. -/
def closed (l : List (Char × Option Char)) : Nat := l.countP fun x => isClosing x.1

/-- A text that completes an expression of which `depth` brackets are open: outside strings every
bracket is closed after it was opened, the text ends outside a string, and where no bracket is open
there is neither a newline nor the start of a comment. -/
structure Completes (s : ExpressionState) (depth : Nat) (t : Text) : Prop where
  covered : ∀ p, p <+: bareChars s t → closed p ≤ opened p + depth
  even : closed (bareChars s t) = opened (bareChars s t) + depth
  ends : stateAfter s t = .code
  oneLine : ∀ p, p <+: bareChars s t → closed p = opened p + depth →
    ∀ x ∈ ((bareChars s t).drop p.length).head?, endsExpression x.1 x.2 = false

/-- A complete expression. -/
abbrev Complete (t : Text) : Prop := Completes .code 0 t

instance (s : ExpressionState) (depth : Nat) (t : Text) : Decidable (Completes s depth t) :=
  decidable_of_iff
    ((∀ p, p <+: bareChars s t → closed p ≤ opened p + depth) ∧
      closed (bareChars s t) = opened (bareChars s t) + depth ∧
      stateAfter s t = .code ∧
      ∀ p, p <+: bareChars s t → closed p = opened p + depth →
        ∀ x ∈ ((bareChars s t).drop p.length).head?, endsExpression x.1 x.2 = false)
    ⟨fun h => ⟨h.1, h.2.1, h.2.2.1, h.2.2.2⟩, fun h => ⟨h.covered, h.even, h.ends, h.oneLine⟩⟩

theorem opened_cons (c : Char) (following : Option Char) (l : List (Char × Option Char)) :
    opened ((c, following) :: l) = opened l + (isOpening c).toNat := by
  rw [opened, List.countP_cons, ← opened]
  cases isOpening c <;> rfl

theorem closed_cons (c : Char) (following : Option Char) (l : List (Char × Option Char)) :
    closed ((c, following) :: l) = closed l + (isClosing c).toNat := by
  rw [closed, List.countP_cons, ← closed]
  cases isClosing c <;> rfl

/-- Behind a character in code the rest completes the expression with the brackets then open. -/
theorem Completes.step {depth : Nat} {c : Char} {t : Text} (h : Completes .code depth (c :: t)) :
    (isClosing c).toNat ≤ depth + (isOpening c).toNat ∧
      Completes (ExpressionState.next .code c) (depth + (isOpening c).toNat - (isClosing c).toNat)
        t := by
  obtain ⟨hcovered, heven, hends, hline⟩ := h
  have hbare : bareChars .code (c :: t)
      = (c, t.head?) :: bareChars (ExpressionState.next .code c) t := rfl
  rw [hbare] at hcovered heven hline
  have hstep : ∀ p, p <+: bareChars (ExpressionState.next .code c) t →
      (c, t.head?) :: p <+: (c, t.head?) :: bareChars (ExpressionState.next .code c) t :=
    fun p hp => (List.prefix_cons_inj _).mpr hp
  have hfirst : (isClosing c).toNat ≤ depth + (isOpening c).toNat := by
    have := hcovered _ (hstep [] List.nil_prefix)
    rw [closed_cons, opened_cons, closed, opened, List.countP_nil, List.countP_nil] at this
    omega
  refine ⟨hfirst, ?_, ?_, hends, ?_⟩
  · intro p hp
    have := hcovered _ (hstep p hp)
    rw [closed_cons, opened_cons] at this
    omega
  · rw [closed_cons, opened_cons] at heven
    omega
  · intro p hp heq
    refine hline _ (hstep p hp) ?_
    rw [closed_cons, opened_cons]
    omega

theorem Completes.first {c : Char} {t : Text} (h : Completes .code 0 (c :: t)) :
    endsExpression c t.head? = false :=
  h.oneLine [] List.nil_prefix rfl (c, t.head?) rfl

theorem endsExpression_newline (c : Char) (t rest : Text) :
    endsExpression c (t ++ '\n' :: rest).head? = endsExpression c t.head? := by
  cases t with
  | nil => simp [endsExpression]
  | cons d t => rfl

/-- One step of reading an expression in code. -/
theorem expressionSpan_code (depth : Nat) (c : Char) (t : Text) :
    expressionSpan .code depth (c :: t) =
      if c = '"' then c :: expressionSpan .quoted depth t
      else if isOpening c then c :: expressionSpan .code (depth + 1) t
      else if isClosing c then
        match depth with
        | 0 => []
        | depth + 1 => c :: expressionSpan .code depth t
      else if depth = 0 ∧ endsExpression c t.head? then []
      else c :: expressionSpan .code depth t := by
  cases depth <;> rfl

/-- An opening bracket is no closing one. -/
theorem isClosing_of_isOpening {c : Char} (h : isOpening c = true) : isClosing c = false := by
  simp only [isOpening, Bool.or_eq_true, decide_eq_true_eq] at h
  rcases h with (rfl | rfl) | rfl <;> decide

/-- A text that completes an expression is read up to the end of its line. -/
theorem expressionSpan_line {s : ExpressionState} {depth : Nat} {t : Text}
    (h : Completes s depth t) (rest : Text) :
    expressionSpan s depth (t ++ '\n' :: rest) = t := by
  induction t generalizing s depth with
  | nil =>
      have hs : s = .code := h.ends
      have hdepth : depth = 0 := by simpa [bareChars, closed, opened] using h.even.symm
      subst hs hdepth
      rfl
  | cons c t ih =>
      cases s with
      | escaped =>
          have hrest : Completes .quoted depth t := ⟨h.covered, h.even, h.ends, h.oneLine⟩
          exact congrArg (c :: ·) (ih hrest)
      | quoted =>
          have hrest : Completes (ExpressionState.next .quoted c) depth t :=
            ⟨h.covered, h.even, h.ends, h.oneLine⟩
          exact congrArg (c :: ·) (ih hrest)
      | code =>
          obtain ⟨hfirst, hrest⟩ := h.step
          rw [List.cons_append, expressionSpan_code]
          by_cases hquote : c = '"'
          · subst hquote
            exact congrArg ('"' :: ·) (ih hrest)
          · rw [if_neg hquote]
            rw [ExpressionState.next, if_neg hquote] at hrest
            by_cases hopen : isOpening c = true
            · rw [if_pos hopen]
              rw [hopen, isClosing_of_isOpening hopen] at hrest
              exact congrArg (c :: ·) (ih hrest)
            · rw [if_neg hopen]
              rw [Bool.eq_false_iff.mpr hopen] at hfirst hrest
              by_cases hclose : isClosing c = true
              · rw [if_pos hclose]
                rw [hclose] at hfirst hrest
                cases depth with
                | zero => exact absurd hfirst (by decide)
                | succ depth => exact congrArg (c :: ·) (ih hrest)
              · rw [if_neg hclose]
                rw [Bool.eq_false_iff.mpr hclose] at hrest
                -- neither a bracket nor a quote: the line break behind makes no comment of it
                have hgo : ¬ (depth = 0 ∧ endsExpression c (t ++ '\n' :: rest).head? = true) := by
                  rintro ⟨rfl, hend⟩
                  rw [endsExpression_newline, h.first] at hend
                  exact nomatch hend
                rw [if_neg hgo]
                exact congrArg (c :: ·) (ih hrest)

/-- A complete trimmed expression is read back from its line. -/
theorem expressionOf_line {t : Text} (ht : Complete t) (htrim : trim t = t) (rest : Text) :
    expressionOf (t ++ '\n' :: rest) = t := by
  rw [expressionOf, expressionSpan_line ht]
  exact htrim

end ModuleDocs.Hcl
