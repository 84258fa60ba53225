import ModuleDocs.Proofs.Usage.WrittenConditions

/-! # Comparisons with literals

    A condition is code with literals in it.  Where the code before a literal
    ends in a comparison of a variable, the variable is compared with the
    body of that literal, as it is written.  The pattern that looks for
    comparisons finds it, although it does not tell code from literals: what
    begins in a literal could only be taken for a comparison if the literal
    itself ended in one. -/

namespace ModuleDocs.Condition

open Text

/-- Whether a text ends in a comparison of a variable that lacks its value. -/
def EndsInComparison (name t : Text) : Prop := ∃ x, x <:+ t ∧ IsComparison name x

/-- In a body a backslash stands before each quote. -/
theorem getLast?_of_isBody {before after : Text} (h : isBody (before ++ '"' :: after) = true) :
    before.getLast? = some '\\' := by
  fun_induction isBody before with
  | case1 => exact absurd h Bool.false_ne_true
  | case2 => rfl
  | case3 c t ih =>
      obtain ⟨-, hrest⟩ := Bool.and_eq_true_iff.mp h
      have hlast := ih hrest
      have hne : t ≠ [] := by rintro rfl; cases hlast
      rw [List.getLast?_cons_of_ne_nil (List.cons_ne_nil _ _), List.getLast?_cons_of_ne_nil hne]
      exact hlast
  | case4 c t hsingle hescape ih =>
      rw [List.cons_append, isBody_cons (ne_backslash_of_alone hsingle hescape)] at h
      have hlast := ih (Bool.and_eq_true_iff.mp h).2
      have hne : t ≠ [] := by rintro rfl; cases hlast
      rw [List.getLast?_cons_of_ne_nil hne]
      exact hlast

/-- A comparison that lacks its value does not end in a backslash. -/
theorem IsComparison.getLast?_ne {name t : Text} (h : IsComparison name t) :
    t.getLast? ≠ some '\\' := by
  obtain ⟨space, operator, gap, rfl, hoperator, -, hgap⟩ := h
  have hne : operator ++ gap ≠ [] := by
    rcases hoperator with rfl | rfl <;> exact List.cons_ne_nil _ _
  have hshape : "var." ++ (name ++ (space ++ (operator ++ gap)))
      = ("var." ++ (name ++ space)) ++ (operator ++ gap) := by simp only [List.append_assoc]
  intro hlast
  rw [hshape, List.getLast?_append_of_ne_nil _ hne] at hlast
  rcases List.mem_append.mp (List.mem_of_getLast? hlast) with hmem | hmem
  · rcases hoperator with rfl | rfl <;> exact absurd hmem (by decide)
  · exact absurd (hgap _ hmem) (by decide)

/-! ## Finding a comparison -/

section Found

variable {name body : Text}

/-- A comparison with its value is read. -/
theorem comparison?_of_isComparison {x : Text} (hx : IsComparison name x)
    (hbody : isBody body = true) (rest : Text) :
    comparison? name (x ++ (literal body ++ rest)) = some (body, rest) := by
  obtain ⟨space, operator, gap, rfl, hoperator, hspace, hgap⟩ := hx
  have hskip : ∀ u : Text, (∀ c ∈ u, isSpace c = true) → ∀ c t, isSpace c = false →
      trimStart (u ++ c :: t) = c :: t :=
    fun u hu c t hc => trimStart_spaces_append hu (by simpa using hc)
  have hvalue : stringLiteral? (trimStart (gap ++ (literal body ++ rest))) = some (body, rest) := by
    have hliteral : literal body ++ rest = '"' :: (body ++ ['"'] ++ rest) := rfl
    rw [hliteral, hskip gap hgap _ _ (by decide), ← hliteral]
    exact stringLiteral?_literal hbody rest
  -- either sign is found, whichever is looked for first
  have hoperation : ∀ t : Text,
      (afterMark? "!=" (space ++ (operator ++ t))).or (afterMark? "==" (space ++ (operator ++ t)))
        = some t := by
    intro t
    have hmarks : ("!=" : Text) = ['!', '='] ∧ ("==" : Text) = ['=', '='] := by decide
    rw [hmarks.1, hmarks.2] at hoperator ⊢
    rcases hoperator with rfl | rfl
    · have hmark : trimStart (space ++ '!' :: '=' :: t) = '!' :: '=' :: t :=
        hskip space hspace _ _ (by decide)
      simp only [afterMark?, List.cons_append, List.nil_append, hmark]
      rfl
    · have hmark : trimStart (space ++ '=' :: '=' :: t) = '=' :: '=' :: t :=
        hskip space hspace _ _ (by decide)
      simp only [afterMark?, List.cons_append, List.nil_append, hmark]
      rfl
  rw [comparison?]
  simp only [List.append_assoc]
  rw [dropPrefix?_append_append, dropPrefix?_append]
  show ((afterMark? "!=" _).or (afterMark? "==" _)).bind _ = _
  rw [hoperation]
  exact hvalue

variable (hname : isIdentifier name = true)
include hname

/-- A literal that does not itself end in a comparison is crossed. -/
theorem allMatches_body (hbody : isBody body = true) (hends : ¬ EndsInComparison name body)
    (rest : Text) :
    allMatches (comparison? name) (literal body ++ rest) = allMatches (comparison? name) rest := by
  have hquote : ∀ t : Text, comparison? name ('"' :: t) = none :=
    comparison?_eq_none_of_head (by decide)
  have hinside : ∀ x, x ≠ [] → x <:+ body → comparison? name (x ++ '"' :: rest) = none := by
    intro x _ hsuffix
    refine Option.eq_none_iff_forall_ne_some.mpr fun found hread => ?_
    by_cases hx : '"' ∈ x
    · -- the first quote inside stands behind a backslash, where no comparison ends
      obtain ⟨y, z, rfl, hy⟩ := List.eq_append_cons_of_mem hx
      rw [List.append_assoc, List.cons_append] at hread
      have hlast := (isComparison_of_quote hname hy hread).getLast?_ne
      obtain ⟨before, rfl⟩ := hsuffix
      rw [← List.append_assoc] at hbody
      have hslash := getLast?_of_isBody hbody
      cases y with
      | nil => exact absurd hread (by rw [List.nil_append, hquote]; exact nofun)
      | cons d y =>
          rw [List.getLast?_append_of_ne_nil _ (List.cons_ne_nil d y)] at hslash
          exact hlast hslash
    · exact hends ⟨x, hsuffix, isComparison_of_quote hname hx hread⟩
  have hshape : literal body ++ rest = '"' :: (body ++ '"' :: rest) := by simp [literal]
  rw [hshape, allMatches, matchesFrom, hquote]
  show allMatches (comparison? name) (body ++ '"' :: rest) = _
  rw [allMatches_append hinside, allMatches, matchesFrom, hquote]
  rfl

end Found

end ModuleDocs.Condition
