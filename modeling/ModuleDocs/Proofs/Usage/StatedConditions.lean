import ModuleDocs.Proofs.Usage.WrittenConditions

/-! # The grammar of stated values

    A condition states a value of a name when it begins with an equation of
    the two: white space, the mark of variables or nothing, the name, an
    operator with white space around it, and the value in quotes.  What
    follows the value does not matter.  The pattern finds exactly these
    equations, and in each only one name and one value, although the mark
    and the second equals sign may be missing. -/

namespace ModuleDocs.Condition

open Text

/-- A condition that begins with an equation of a name and a value. -/
def States (condition name value : Text) : Prop :=
  ∃ lead scope gap operator space rest,
    condition
      = lead ++ (scope ++ (name ++ (gap ++ (operator ++ (space ++ (literal value ++ rest)))))) ∧
    (∀ c ∈ lead, isSpace c = true) ∧ (scope = [] ∨ scope = "var.") ∧ isIdentifier name = true ∧
    (∀ c ∈ gap, isSpace c = true) ∧ (operator = "=" ∨ operator = "==") ∧
    (∀ c ∈ space, isSpace c = true) ∧ '"' ∉ value

/-- A text is what may be missing at its start, if it is there, and what is left without it. -/
theorem exists_optional_prefix (start t : Text) :
    ∃ given, t = given ++ (dropPrefix? start t).getD t ∧ (given = [] ∨ given = start) := by
  cases h : dropPrefix? start t with
  | none => exact ⟨[], rfl, .inl rfl⟩
  | some rest => exact ⟨start, dropPrefix?_eq_some_iff.mp h, .inr rfl⟩

/-- What is read as an identifier is one. -/
theorem eq_of_identifier? {t name rest : Text} (h : identifier? t = some (name, rest)) :
    t = name ++ rest ∧ isIdentifier name = true := by
  cases t with
  | nil => exact nomatch h
  | cons c t =>
      rw [identifier?] at h
      split at h
      · next hc =>
          obtain ⟨rfl, rfl⟩ := Prod.mk.inj (Option.some.inj h)
          refine ⟨?_, Bool.and_eq_true_iff.mpr ⟨hc, List.all_takeWhile⟩⟩
          rw [List.cons_append, List.takeWhile_append_dropWhile]
      · cases h

/-- A text with a quote is what stands before the first one, the quote, and what follows it. -/
theorem eq_of_closing_quote {t rest : Text}
    (h : dropPrefix? ['"'] (t.dropWhile (· != '"')) = some rest) :
    t = t.takeWhile (· != '"') ++ '"' :: rest ∧ '"' ∉ t.takeWhile (· != '"') := by
  have hclose := dropPrefix?_eq_some_iff.mp h
  constructor
  · rw [← List.singleton_append, ← hclose, List.takeWhile_append_dropWhile]
  · intro hmem
    exact absurd (List.mem_takeWhile_imp hmem) (by decide)

/-- What the pattern finds is stated. -/
theorem states_of_stated? {condition name value : Text}
    (h : stated? condition = some (name, value)) : States condition name value := by
  rw [stated?] at h
  obtain ⟨⟨found, behind⟩, hname, h⟩ := Option.bind_eq_some_iff.mp h
  obtain ⟨equated, hequals, h⟩ := Option.bind_eq_some_iff.mp h
  obtain ⟨quoted, hopen, h⟩ := Option.bind_eq_some_iff.mp h
  obtain ⟨rest, hclose, h⟩ := Option.bind_eq_some_iff.mp h
  obtain ⟨rfl, rfl⟩ := Prod.mk.inj (Option.some.inj h)
  obtain ⟨scope, hscope, hmark⟩ := exists_optional_prefix "var." (trimStart condition)
  obtain ⟨second, hsecond, htwice⟩ := exists_optional_prefix ['='] equated
  obtain ⟨hnamed, hident⟩ := eq_of_identifier? hname
  obtain ⟨hvalue, hquote⟩ := eq_of_closing_quote hclose
  obtain ⟨gap, hgapped, hgap⟩ := exists_of_afterMark? hequals
  obtain ⟨space, hspaced, hspace⟩ := exists_of_afterMark? hopen
  refine ⟨condition.takeWhile isSpace, scope, gap, '=' :: second, space, rest, ?_,
    fun _ => List.mem_takeWhile_imp, hmark, hident, hgap, ?_, hspace, hquote⟩
  · -- the pieces are put together again from the last one to the first
    have hliteral : literal (quoted.takeWhile (· != '"')) ++ rest = ['"'] ++ quoted := by
      conv_rhs => rw [hvalue]
      simp [literal]
    have hequation : gap ++ ('=' :: second ++ (space ++ (['"'] ++ quoted))) = behind := by
      rw [← hspaced, List.cons_append, ← hsecond, hgapped]
      rfl
    rw [hliteral, hequation, ← hnamed, ← hscope, takeWhile_append_trimStart]
  · rcases htwice with rfl | rfl
    · exact .inl (by decide)
    · exact .inr (by decide)

/-- White space before an operator ends the name before it. -/
theorem exists_cons_of_gap {gap operator : Text} (hgap : ∀ c ∈ gap, isSpace c = true)
    (hoperator : operator = "=" ∨ operator = "==") (t : Text) :
    ∃ c u, gap ++ (operator ++ t) = c :: u ∧ isIdentPart c = false ∧ c ∉ ("var." : Text) := by
  cases gap with
  | nil =>
      rcases hoperator with rfl | rfl
      · exact ⟨'=', t, rfl, by decide, by decide⟩
      · exact ⟨'=', '=' :: t, rfl, by decide, by decide⟩
  | cons c gap =>
      have hc : isSpace c = true := hgap c List.mem_cons_self
      refine ⟨c, gap ++ (operator ++ t), rfl, ?_, ?_⟩
      · cases hpart : isIdentPart c with
        | false => rfl
        | true => exact absurd (isSpace_of_isIdentPart hpart) (by simp [hc])
      · intro hmem
        have hmark : ∀ d ∈ ("var." : Text), isSpace d = false := by decide
        rw [hmark c hmem] at hc
        exact nomatch hc

/-- The mark of variables is dropped before an identifier, and nothing where it is missing. -/
theorem getD_dropPrefix?_scope {scope name t : Text} {c : Char}
    (hscope : scope = [] ∨ scope = "var.") (hname : isIdentifier name = true)
    (hc : c ∉ ("var." : Text)) :
    (dropPrefix? "var." (scope ++ (name ++ c :: t))).getD (scope ++ (name ++ c :: t))
      = name ++ c :: t := by
  rcases hscope with rfl | rfl
  · -- a name that began with the mark would hold its dot
    have hnone : dropPrefix? "var." name = none := by
      refine Option.eq_none_iff_forall_ne_some.mpr fun rest hsome => ?_
      refine not_mem_of_isIdentifier hname (c := '.') (by decide) ?_
      rw [dropPrefix?_eq_some_iff.mp hsome]
      exact List.mem_append_left _ (by decide)
    rw [List.nil_append, dropPrefix?_append_cons hc, hnone]
    rfl
  · rw [dropPrefix?_append, Option.getD_some]

/-- The operator is found behind white space, a second equals sign with it. -/
theorem exists_afterMark?_operator {gap operator space t : Text}
    (hgap : ∀ c ∈ gap, isSpace c = true) (hoperator : operator = "=" ∨ operator = "==")
    (hspace : ∀ c ∈ space, isSpace c = true) :
    ∃ equated, afterMark? ['='] (gap ++ (operator ++ (space ++ '"' :: t))) = some equated ∧
      (dropPrefix? ['='] equated).getD equated = space ++ '"' :: t := by
  have hfirst : ∀ u : Text, afterMark? ['='] (gap ++ '=' :: u) = some u := by
    intro u
    rw [afterMark?, trimStart_spaces_append hgap (by simp; decide)]
    exact dropPrefix?_append ['='] u
  rcases hoperator with rfl | rfl
  · refine ⟨space ++ '"' :: t, hfirst _, ?_⟩
    -- neither white space nor the quote is a second equals sign
    have hnone : dropPrefix? ['='] (space ++ '"' :: t) = none := by
      cases space with
      | nil => exact dropPrefix?_eq_none_of_head (by decide) _ _
      | cons c space =>
          have hc : isSpace c = true := hspace c List.mem_cons_self
          refine dropPrefix?_eq_none_of_head ?_ _ _
          rintro rfl
          exact absurd hc (by decide)
    rw [hnone, Option.getD_none]
  · refine ⟨'=' :: (space ++ '"' :: t), hfirst _, ?_⟩
    have hsecond := dropPrefix?_append ['='] (space ++ '"' :: t)
    rw [List.singleton_append] at hsecond
    rw [hsecond, Option.getD_some]

/-- What is stated is found by the pattern. -/
theorem stated?_of_states {condition name value : Text} (h : States condition name value) :
    stated? condition = some (name, value) := by
  obtain ⟨lead, scope, gap, operator, space, rest, rfl, hlead, hscope, hname, hgap, hoperator,
    hspace, hvalue⟩ := h
  have hliteral : literal value ++ rest = '"' :: (value ++ '"' :: rest) := by simp [literal]
  obtain ⟨c, behind, hcons, hpart, hmark⟩ :=
    exists_cons_of_gap hgap hoperator (space ++ (literal value ++ rest))
  -- the white space in front ends at the mark or at the name
  have hstart : ∀ d ∈ (scope ++ (name ++ c :: behind)).head?, isSpace d = false := by
    have hne : name ≠ [] := by
      rintro rfl
      exact absurd hname (by decide)
    obtain ⟨e, t, rfl⟩ := List.exists_cons_of_ne_nil hne
    intro d hd
    rcases hscope with rfl | rfl
    · obtain rfl : e = d := Option.some.inj hd
      exact isSpace_of_isIdentPart (isIdentPart_of_mem_identifier hname e List.mem_cons_self)
    · obtain rfl : 'v' = d := Option.some.inj hd
      decide
  obtain ⟨equated, hequals, hsecond⟩ :=
    exists_afterMark?_operator (t := value ++ '"' :: rest) hgap hoperator hspace
  have hopen : afterMark? ['"'] (space ++ '"' :: (value ++ '"' :: rest))
      = some (value ++ '"' :: rest) := by
    rw [afterMark?, trimStart_spaces_append hspace (by simp; decide)]
    exact dropPrefix?_append ['"'] _
  have hin : ∀ d ∈ value, (d != '"') = true := by
    intro d hd
    simpa using fun h : d = '"' => hvalue (h ▸ hd)
  have hstop : ('"' != '"') = false := by decide
  have hclose : dropPrefix? ['"'] ('"' :: rest) = some rest := dropPrefix?_append ['"'] rest
  rw [← hliteral, hcons] at hequals
  rw [hcons, stated?, trimStart_spaces_append hlead hstart]
  simp only [getD_dropPrefix?_scope hscope hname hmark, identifier?_append_cons hname hpart,
    Option.bind_eq_bind, Option.bind_some, hequals, hsecond, hopen,
    takeWhile_eq_left hin hstop, dropWhile_eq_right hin hstop, hclose]

/-- The pattern finds exactly what is stated: a name and a value for every condition that begins
with their equation, and nothing in any other. -/
theorem stated?_eq_some_iff {condition name value : Text} :
    stated? condition = some (name, value) ↔ States condition name value :=
  ⟨states_of_stated?, stated?_of_states⟩

end ModuleDocs.Condition
