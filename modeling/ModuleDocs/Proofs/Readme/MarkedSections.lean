import ModuleDocs.Proofs.Text.Occurrences
import ModuleDocs.Readme.Document
import ModuleDocs.Readme.Table

/-! # Marked sections that are made again

    A marked section parts a document into what stands before its marks,
    between them, and behind them.  The marks are tags, so they are found in
    the same places again when the document is put together anew: behind a
    text without marks a section that was carried over is carried over once
    more, and a section that was given a body without a closing mark is given
    the same body in the same place.

    Both hold also for what is read from the file that the document was
    written to, where every line end has become a newline. -/

namespace ModuleDocs

open Text

namespace Markers

/-- Whether the two marks are tags, and the closing one is not read where the opening one stands. -/
structure AreTags (m : Markers) : Prop where
  opening : IsTag m.opening
  closing : IsTag m.closing
  differ : ∀ t, dropPrefix? m.closing (m.opening ++ t) = none

theorem areTags_tfDocs : tfDocs.AreTags where
  opening := ⟨rfl, by decide, by decide⟩
  closing := ⟨rfl, by decide, by decide⟩
  differ := fun _ => rfl

theorem areTags_modules : modules.AreTags where
  opening := ⟨rfl, by decide, by decide⟩
  closing := ⟨rfl, by decide, by decide⟩
  differ := fun _ => rfl

/-- Whether a text holds neither mark. -/
def AbsentFrom (m : Markers) (t : Text) : Prop :=
  contains t m.opening = false ∧ contains t m.closing = false

instance (m : Markers) (t : Text) : Decidable (m.AbsentFrom t) :=
  inferInstanceAs (Decidable (_ ∧ _))

/-- What stands before, between and behind the two marks, when both are there in order. -/
def parts? (m : Markers) (content : Text) : Option (Text × Text × Text) :=
  (splitAt? m.opening content).bind fun (before, rest) =>
    if contains before m.closing then none
    else (splitAt? m.closing rest).map fun (middle, after) => (before, middle, after)

variable {m : Markers} {content before middle after : Text}

/-- A closing mark is not found before the end of an opening one. -/
theorem AreTags.splitAt?_opening_append (h : m.AreTags) (rest : Text) :
    splitAt? m.closing (m.opening ++ rest)
      = (splitAt? m.closing rest).map fun (middle, after) => (m.opening ++ middle, after) := by
  have hopening := h.opening.eq_cons
  have hnone := h.differ rest
  rw [hopening, List.cons_append] at hnone ⊢
  rw [splitAt?, hnone, h.closing.splitAt?_append_of_not_mem h.opening.tail]
  cases splitAt? m.closing rest <;> rfl

/-- The first closing mark is before an opening one, or else behind it. -/
theorem AreTags.splitAt?_closing (h : m.AreTags) (before rest : Text) :
    splitAt? m.closing (before ++ (m.opening ++ rest))
      = match splitAt? m.closing before with
        | some (start, stop) => some (start, stop ++ (m.opening ++ rest))
        | none => (splitAt? m.closing rest).map fun (middle, after) =>
            (before ++ (m.opening ++ middle), after) := by
  have hopening : m.opening ++ rest = '<' :: (m.opening.tail ++ rest) := by
    rw [← List.cons_append, ← h.opening.eq_cons]
  rw [hopening, splitAt?_append_cons h.closing.ne_nil h.closing.tail, ← hopening,
    h.splitAt?_opening_append, Option.map_map]
  rfl

/-- The indexes of the marks are where the parts of the document end. -/
theorem AreTags.positions?_eq (h : m.AreTags) (content : Text) :
    m.positions? content = (m.parts? content).map fun (before, middle, _) =>
      (before.length, before.length + m.opening.length + middle.length) := by
  unfold positions? parts? index?
  cases hsplit : splitAt? m.opening content with
  | none => rfl
  | some found =>
      obtain ⟨before, rest⟩ := found
      have hcontent : content = before ++ (m.opening ++ rest) := by
        rw [append_of_splitAt? hsplit, List.append_assoc]
      have hclosing := h.splitAt?_closing before rest
      rw [← hcontent] at hclosing
      rw [hclosing]
      cases hearly : splitAt? m.closing before with
      | some early =>
          -- the first closing mark stands before the first opening one
          obtain ⟨start, stop⟩ := early
          have hlength := congrArg List.length (append_of_splitAt? hearly)
          have hpos := List.length_pos_iff.mpr h.closing.ne_nil
          rw [List.length_append, List.length_append] at hlength
          have hlate : ¬ before.length ≤ start.length := by omega
          have hcontains : contains before m.closing = true := by
            rw [contains, hearly]
            rfl
          simp [hlate, hcontains]
      | none =>
          have hcontains := splitAt?_eq_none_iff.mp hearly
          cases hlate : splitAt? m.closing rest <;> simp [hcontains, hlate, Nat.add_assoc]

/-- A document is its parts with the marks between them.  The opening mark does not occur before
itself, and the closing mark neither there nor between the marks. -/
theorem AreTags.parts?_eq_some_iff (h : m.AreTags) :
    m.parts? content = some (before, middle, after) ↔
      content = before ++ m.opening ++ (middle ++ m.closing ++ after) ∧
        m.AbsentFrom before ∧ contains middle m.closing = false := by
  constructor
  · intro hparts
    obtain ⟨⟨start, rest⟩, hopening, hrest⟩ := Option.bind_eq_some_iff.mp hparts
    dsimp only at hrest
    split at hrest
    · exact nomatch hrest
    · next hcontains =>
        obtain ⟨⟨inner, stop⟩, hclosing, hfound⟩ := Option.map_eq_some_iff.mp hrest
        obtain ⟨rfl, rfl, rfl⟩ : start = before ∧ inner = middle ∧ stop = after := by
          simpa using hfound
        refine ⟨?_, ⟨contains_of_splitAt? h.opening.ne_nil hopening, ?_⟩,
          contains_of_splitAt? h.closing.ne_nil hclosing⟩
        · rw [append_of_splitAt? hopening, append_of_splitAt? hclosing]
        · simpa using hcontains
  · rintro ⟨rfl, ⟨hopening, hclosing⟩, hmiddle⟩
    rw [parts?, h.opening.splitAt?_append hopening, Option.bind_some]
    dsimp only
    rw [hclosing, h.closing.splitAt?_append hmiddle]
    rfl

/-- A section is taken out with its marks. -/
theorem AreTags.extract_eq (h : m.AreTags) (content : Text) :
    m.extract content = match m.parts? content with
      | some (_, middle, _) => m.opening ++ middle ++ m.closing
      | none => m.opening ++ '\n' :: m.closing := by
  rw [extract, h.positions?_eq]
  cases hparts : m.parts? content with
  | none => rfl
  | some found =>
      obtain ⟨before, middle, after⟩ := found
      have hcontent : content = before ++ (m.opening ++ middle ++ m.closing) ++ after := by
        rw [(h.parts?_eq_some_iff.mp hparts).1]
        simp only [List.append_assoc]
      have hlength : before.length + m.opening.length + middle.length + m.closing.length
          = (before ++ (m.opening ++ middle ++ m.closing)).length := by
        simp only [List.length_append, Nat.add_assoc]
      show (content.take _).drop _ = _
      rw [hlength, hcontent, List.take_left, List.drop_left]

/-- A section is given a body between its marks. -/
theorem AreTags.replace?_eq (h : m.AreTags) (content body : Text) :
    m.replace? content body = (m.parts? content).map fun (before, _, after) =>
      before ++ m.opening ++ ('\n' :: body ++ ['\n'] ++ m.closing ++ after) := by
  rw [replace?, h.positions?_eq]
  cases hparts : m.parts? content with
  | none => rfl
  | some found =>
      obtain ⟨before, middle, after⟩ := found
      have hcontent : content = before ++ m.opening ++ (middle ++ (m.closing ++ after)) := by
        rw [(h.parts?_eq_some_iff.mp hparts).1, List.append_assoc middle]
      have hlength : before.length + m.opening.length + middle.length
          = (before ++ m.opening ++ middle).length := by
        simp only [List.length_append]
      show some (content.take _ ++ '\n' :: body ++ '\n' :: content.drop _) = some _
      rw [hlength, ← List.length_append, hcontent, List.take_left, ← List.append_assoc _ middle,
        List.drop_left]
      simp only [List.append_assoc, List.cons_append, List.nil_append]

/-! ## Again -/

/-- A section that was taken out is taken out again where it stands behind a text without marks,
whatever stands behind it. -/
theorem AreTags.extract_append (h : m.AreTags) (hbefore : m.AbsentFrom before)
    (content after : Text) :
    m.extract (before ++ m.extract content ++ after) = m.extract content := by
  obtain ⟨middle, hmiddle, hextract⟩ : ∃ middle, contains middle m.closing = false ∧
      m.extract content = m.opening ++ middle ++ m.closing := by
    rw [h.extract_eq]
    cases hparts : m.parts? content with
    | none =>
        refine ⟨['\n'], ?_, by rw [List.append_assoc]; rfl⟩
        rw [h.closing.contains_cons_of_ne (by decide), h.closing.contains_nil]
    | some found =>
        obtain ⟨start, middle, stop⟩ := found
        exact ⟨middle, (h.parts?_eq_some_iff.mp hparts).2.2, rfl⟩
  have hparts : m.parts? (before ++ m.extract content ++ after) = some (before, middle, after) := by
    refine h.parts?_eq_some_iff.mpr ⟨?_, hbefore, hmiddle⟩
    rw [hextract]
    simp only [List.append_assoc]
  rw [h.extract_eq (before ++ _ ++ _), hparts, hextract]

/-- What is taken out of a text without carriage returns has none. -/
theorem AreTags.not_mem_extract (h : m.AreTags) (hcontent : '\r' ∉ content) :
    '\r' ∉ m.extract content := by
  have hopening := h.opening.lines.2
  have hclosing := h.closing.lines.2
  rw [h.extract_eq]
  cases hparts : m.parts? content with
  | none => simp [hopening, hclosing]
  | some found =>
      obtain ⟨before, middle, after⟩ := found
      have hmiddle : '\r' ∉ middle := by
        rw [(h.parts?_eq_some_iff.mp hparts).1] at hcontent
        simp only [List.mem_append] at hcontent
        tauto
      simp [hopening, hclosing, hmiddle]

/-- A section that was given a body without a closing mark is given it again in the same place, also
in what is read from the file. -/
theorem AreTags.replace?_again (h : m.AreTags) {body updated : Text} (hcontent : '\r' ∉ content)
    (hbody : contains body m.closing = false) (hreplace : m.replace? content body = some updated) :
    m.replace? (withNewlines updated) body = some updated := by
  rw [h.replace?_eq] at hreplace
  obtain ⟨⟨before, middle, after⟩, hparts, hupdated⟩ := Option.map_eq_some_iff.mp hreplace
  obtain ⟨hdocument, hbefore, -⟩ := h.parts?_eq_some_iff.mp hparts
  -- what the body stands between is read as it was written
  have hnone : '\r' ∉ before ++ m.opening ++ ['\n'] ∧ '\r' ∉ m.closing ++ after := by
    rw [hdocument] at hcontent
    simp only [List.mem_append, List.mem_singleton] at hcontent ⊢
    refine ⟨?_, ?_⟩
    · rintro ((hr | hr) | hr)
      · tauto
      · tauto
      · exact nomatch hr
    · tauto
  have hread : withNewlines updated
      = before ++ m.opening ++ ('\n' :: withNewlines (body ++ ['\n']) ++ m.closing ++ after) := by
    rw [← hupdated]
    dsimp only
    rw [show before ++ m.opening ++ ('\n' :: body ++ ['\n'] ++ m.closing ++ after)
        = (before ++ m.opening) ++ '\n' :: (body ++ '\n' :: (m.closing ++ after)) by simp,
      withNewlines_append, withNewlines_append body, withNewlines_eq_self hnone.1,
      withNewlines_eq_self hnone.2]
    simp
  have hmiddle : contains ('\n' :: withNewlines (body ++ ['\n'])) m.closing = false := by
    rw [h.closing.contains_cons_of_ne (by decide)]
    refine h.closing.contains_withNewlines ?_
    rw [h.closing.contains_append_newline, hbody, h.closing.contains_nil]
    rfl
  have hagain : m.parts? (withNewlines updated)
      = some (before, '\n' :: withNewlines (body ++ ['\n']), after) :=
    h.parts?_eq_some_iff.mpr ⟨hread, hbefore, hmiddle⟩
  rw [h.replace?_eq, hagain, ← hupdated]
  rfl

end Markers

/-- Rows without a closing mark make a table without one. -/
theorem TableRow.contains_table {rows : List TableRow}
    (h : ∀ row ∈ rows, contains row.line Markers.modules.closing = false) :
    contains (table rows) Markers.modules.closing = false := by
  refine Markers.areTags_modules.closing.contains_join (by decide) (by decide) fun line hline => ?_
  rcases List.mem_append.mp hline with hhead | hrow
  · exact (by decide : ∀ line ∈ head, contains line Markers.modules.closing = false) line hhead
  · obtain ⟨row, hmem, rfl⟩ := List.mem_map.mp hrow
    exact h row hmem

/-! ## The README of a module -/

namespace Readme

/-- The sections of a README that are made anew: all but the last. -/
def madeSections (s : UsageStyle) (c : ModuleContext) (d : Description) (u : UsageExamples) :
    List Text :=
  (sections s c d u []).dropLast

variable {s : UsageStyle} {c : ModuleContext} {d : Description} {u : UsageExamples}

/-- The last section of a README is the one that is carried over. -/
theorem sections_eq (existing : Text) :
    sections s c d u existing = madeSections s c d u ++ [Markers.tfDocs.extract existing] := by
  unfold madeSections sections
  rw [List.dropLast_append_of_ne_nil (List.cons_ne_nil _ _), List.append_assoc _ _ [_]]
  rfl

theorem madeSections_ne_nil : madeSections s c d u ≠ [] := by
  unfold madeSections sections
  simp

/-- A README that is made again holds what it held: the section that was carried over is carried
over once more. -/
theorem assemble_again (hmade : ∀ part ∈ madeSections s c d u, Markers.tfDocs.AbsentFrom part)
    {existing : Option Text} (hexisting : '\r' ∉ existing.getD []) :
    assemble s c d u (some (withNewlines (assemble s c d u existing)))
      = assemble s c d u existing := by
  have htags := Markers.areTags_tfDocs
  obtain ⟨before, hbefore⟩ : ∃ before, before = join "\n\n" (madeSections s c d u) ++ ['\n'] :=
    ⟨_, rfl⟩
  have hmark : ∀ {mark : Text}, IsTag mark →
      (∀ part ∈ madeSections s c d u, contains part mark = false) →
      contains (withNewlines (before ++ ['\n'])) mark = false := by
    intro mark htag hnone
    refine htag.contains_withNewlines ?_
    rw [hbefore, htag.contains_append_newline, htag.contains_append_newline,
      htag.contains_join (by decide) (by decide) hnone, htag.contains_nil]
    rfl
  -- what is made anew holds no mark, so the first one is that of the section carried over
  have habsent : Markers.tfDocs.AbsentFrom (withNewlines (before ++ ['\n'])) :=
    ⟨hmark htags.opening fun part hpart => (hmade part hpart).1,
      hmark htags.closing fun part hpart => (hmade part hpart).2⟩
  have htext : assemble s c d u existing
      = before ++ '\n' :: (Markers.tfDocs.extract (existing.getD []) ++ ['\n']) := by
    rw [assemble, sections_eq, join_concat _ madeSections_ne_nil, hbefore]
    simp
  have hread : withNewlines (assemble s c d u existing)
      = withNewlines (before ++ ['\n']) ++ Markers.tfDocs.extract (existing.getD []) ++ ['\n'] := by
    have hplain : '\r' ∉ Markers.tfDocs.extract (existing.getD []) ++ ['\n'] := by
      simpa using htags.not_mem_extract hexisting
    rw [htext, withNewlines_append, withNewlines_eq_self hplain, List.append_assoc]
  rw [assemble, Option.getD_some, hread, sections_eq, htags.extract_append habsent, assemble,
    sections_eq]

end Readme

end ModuleDocs
