import ModuleDocs.Proofs.Readme.MarkedSections

/-! # The first marked section

    The two marks of a section are looked for apart from each other, each at
    its first place in the document.  They fence a section only when the
    closing mark does not come first.  So the section that a reader sees
    (from the first opening mark through the next closing one) is found
    exactly when no closing mark stands before it.

    What is written into a section stays between the same two marks, as long
    as it holds no closing mark itself: writing once more replaces it, and
    the section that is taken out is what was written. -/

namespace ModuleDocs

open Text

namespace Markers

variable {m : Markers} {content before middle after : Text} {i j : Nat}

/-! ## The places of the marks -/

/-- The marks are found where they stand first, when the closing one does not come first. -/
theorem AreTags.positions?_eq_some_iff (h : m.AreTags) :
    m.positions? content = some (i, j) ↔
      IsFirstAt m.opening content i ∧ IsFirstAt m.closing content j ∧ i ≤ j := by
  rw [← index?_eq_some_iff h.opening.ne_nil, ← index?_eq_some_iff h.closing.ne_nil, positions?]
  cases hopening : index? m.opening content with
  | none => simp
  | some k =>
      cases hclosing : index? m.closing content with
      | none => simp
      | some l =>
          by_cases hkl : k ≤ l
          · simp only [if_pos hkl, Option.some.injEq, Prod.mk.injEq]
            constructor
            · rintro ⟨rfl, rfl⟩
              exact ⟨rfl, rfl, hkl⟩
            · rintro ⟨hi, hj, -⟩
              exact ⟨hi, hj⟩
          · simp only [if_neg hkl, Option.some.injEq]
            refine ⟨nofun, ?_⟩
            rintro ⟨rfl, rfl, hij⟩
            exact absurd hij hkl

/-- The marks are not found when one is missing or the closing one comes first. -/
theorem AreTags.positions?_eq_none_iff (h : m.AreTags) :
    m.positions? content = none ↔
      ¬ m.opening <:+: content ∨ ¬ m.closing <:+: content ∨
        ∃ i j, IsFirstAt m.opening content i ∧ IsFirstAt m.closing content j ∧ j < i := by
  rw [← index?_eq_none_iff, ← index?_eq_none_iff]
  simp only [← index?_eq_some_iff h.opening.ne_nil, ← index?_eq_some_iff h.closing.ne_nil,
    positions?]
  cases index? m.opening content with
  | none => simp
  | some k =>
      cases index? m.closing content with
      | none => simp
      | some l =>
          by_cases hkl : k ≤ l
          · simp [hkl]
          · simp [hkl, Nat.lt_of_not_le hkl]

/-! ## Writing into a section -/

/-- A body without a closing mark holds none with line ends around it either. -/
theorem AreTags.contains_body (h : m.AreTags) {body : Text} (hbody : ¬ m.closing <:+: body) :
    contains ('\n' :: body ++ ['\n']) m.closing = false := by
  rw [← contains_iff_isInfix, Bool.not_eq_true] at hbody
  rw [List.cons_append, h.closing.contains_cons_of_ne (by decide), h.closing.contains_append_newline,
    hbody, h.closing.contains_nil]
  rfl

/-- A section that was given a body without a closing mark has this body, and what stands around it
is what stood there before. -/
theorem AreTags.parts?_of_replace? (h : m.AreTags) {body updated : Text}
    (hbody : ¬ m.closing <:+: body) (hreplace : m.replace? content body = some updated) :
    ∃ before middle after, m.parts? content = some (before, middle, after) ∧
      m.parts? updated = some (before, '\n' :: body ++ ['\n'], after) := by
  rw [h.replace?_eq] at hreplace
  obtain ⟨⟨before, middle, after⟩, hparts, rfl⟩ := Option.map_eq_some_iff.mp hreplace
  -- the text before the opening mark stays, so the same two marks are the first ones again
  obtain ⟨-, hbefore, -⟩ := h.parts?_eq_some_iff.mp hparts
  exact ⟨before, middle, after, hparts,
    h.parts?_eq_some_iff.mpr ⟨rfl, hbefore, h.contains_body hbody⟩⟩

/-- The last body that is written counts: writing over a body without a closing mark gives what
writing into the document before gives. -/
theorem AreTags.replace?_replace? (h : m.AreTags) {body updated : Text}
    (hbody : ¬ m.closing <:+: body) (hreplace : m.replace? content body = some updated)
    (last : Text) : m.replace? updated last = m.replace? content last := by
  obtain ⟨before, middle, after, hparts, hupdated⟩ := h.parts?_of_replace? hbody hreplace
  rw [h.replace?_eq, h.replace?_eq, hparts, hupdated]
  rfl

/-- A body without a closing mark is taken out as it was written, on lines between the marks. -/
theorem AreTags.extract_of_replace? (h : m.AreTags) {body updated : Text}
    (hbody : ¬ m.closing <:+: body) (hreplace : m.replace? content body = some updated) :
    m.extract updated = join ['\n'] [m.opening, body, m.closing] := by
  obtain ⟨before, middle, after, -, hupdated⟩ := h.parts?_of_replace? hbody hreplace
  rw [h.extract_eq, hupdated, join_cons_cons, join_cons_cons, join, List.intercalate_singleton]
  simp only [List.append_assoc, List.cons_append, List.nil_append]

/-- Writing keeps the document up to the end of the first opening mark and from the first closing
mark on. -/
theorem AreTags.replace?_around (h : m.AreTags) {body updated : Text}
    (hreplace : m.replace? content body = some updated) :
    ∃ i j, IsFirstAt m.opening content i ∧ IsFirstAt m.closing content j ∧
      i + m.opening.length ≤ j ∧
      content.take (i + m.opening.length) <+: updated ∧ content.drop j <:+ updated := by
  rw [h.replace?_eq] at hreplace
  obtain ⟨⟨before, middle, after⟩, hparts, rfl⟩ := Option.map_eq_some_iff.mp hreplace
  have hpositions := h.positions?_eq content
  rw [hparts] at hpositions
  obtain ⟨hopening, hclosing, -⟩ := h.positions?_eq_some_iff.mp hpositions
  obtain ⟨rfl, -, -⟩ := h.parts?_eq_some_iff.mp hparts
  refine ⟨before.length, _, hopening, hclosing, Nat.le_add_right _ _, ?_, ?_⟩
  · rw [← List.length_append, List.take_left]
    exact List.prefix_append _ _
  · rw [← List.length_append, ← List.length_append, List.append_assoc middle, ← List.append_assoc,
      List.drop_left]
    dsimp only
    rw [List.append_assoc _ m.closing, ← List.append_assoc _ _ (m.closing ++ after)]
    exact List.suffix_append _ _

/-- The table of modules has no place exactly when one of its marks is missing or the first closing
mark comes before the first opening one.  Otherwise the document begins as before up to the end of
the first opening mark and ends as before from the first closing mark on.  A body without a closing
mark is replaced by the next one as if it had not been written, and it is taken out on lines between
the marks. -/
theorem replace?_last_write (content x y : Text) :
    (modules.replace? content x = none ↔
      ¬ modules.opening <:+: content ∨ ¬ modules.closing <:+: content ∨
        ∃ i j, IsFirstAt modules.opening content i ∧ IsFirstAt modules.closing content j ∧ j < i) ∧
    ∀ updated, modules.replace? content x = some updated →
      (∃ i j, IsFirstAt modules.opening content i ∧ IsFirstAt modules.closing content j ∧
        i + modules.opening.length ≤ j ∧
        content.take (i + modules.opening.length) <+: updated ∧ content.drop j <:+ updated) ∧
      (¬ modules.closing <:+: x →
        modules.replace? updated y = modules.replace? content y ∧
        modules.extract updated = join ['\n'] [modules.opening, x, modules.closing]) := by
  have htags := areTags_modules
  refine ⟨?_, fun updated hreplace => ⟨htags.replace?_around hreplace, fun hx =>
    ⟨htags.replace?_replace? hx hreplace y, htags.extract_of_replace? hx hreplace⟩⟩⟩
  rw [replace?, Option.map_eq_none_iff, htags.positions?_eq_none_iff]

/-- A body may hold the opening mark, and the document further marks behind the section. -/
theorem replace?_last_write_nested :
    let content : Text := "a<!-- BEGIN_MODULES -->b<!-- END_MODULES -->c<!-- BEGIN_MODULES -->"
    let updated : Text := "a<!-- BEGIN_MODULES -->\n<!-- BEGIN_MODULES -->\n<!-- END_MODULES -->c"
      ++ "<!-- BEGIN_MODULES -->"
    modules.replace? content modules.opening = some updated ∧
      modules.replace? updated "y" = modules.replace? content "y" ∧
      modules.extract updated
        = "<!-- BEGIN_MODULES -->\n<!-- BEGIN_MODULES -->\n<!-- END_MODULES -->" := by
  intro content updated
  have hreplace : modules.replace? content modules.opening = some updated := by decide +kernel
  obtain ⟨-, hwritten⟩ := replace?_last_write content modules.opening "y"
  obtain ⟨-, hplain⟩ := hwritten updated hreplace
  obtain ⟨hlast, hextract⟩ := hplain (by decide +kernel)
  exact ⟨hreplace, hlast, hextract.trans (by decide)⟩

/-! ## The section that a reader sees -/

/-- The section from the first opening mark of a document through the next closing mark. -/
structure FirstSection (m : Markers) (content before middle after : Text) : Prop where
  parts : content = before ++ m.opening ++ (middle ++ m.closing ++ after)
  opened : IsFirstAt m.opening content before.length
  closed : IsFirstAt m.closing (middle ++ m.closing ++ after) middle.length

/-- A document with an opening mark and a closing mark somewhere behind it has a first section. -/
theorem AreTags.exists_firstSection (h : m.AreTags) {start inner rest : Text}
    (hcontent : content = start ++ m.opening ++ (inner ++ m.closing ++ rest)) :
    ∃ before middle after, m.FirstSection content before middle after := by
  have hopening : contains content m.opening = true :=
    contains_iff_isInfix.mpr ⟨start, _, hcontent.symm⟩
  obtain ⟨⟨before, behind⟩, hsplit⟩ := Option.isSome_iff_exists.mp hopening
  obtain ⟨hbehind, hfirst⟩ := (splitAt?_eq_some_iff h.opening.ne_nil).mp hsplit
  -- the first opening mark is not behind the one that is given, so the closing mark is behind it
  have hle : before.length ≤ start.length := by
    refine Nat.le_of_not_lt fun hlt => hfirst.first start.length hlt ?_
    rw [hcontent, List.append_assoc, List.drop_left]
    exact List.prefix_append _ _
  have hdrop : behind = (start.drop before.length ++ m.opening).drop m.opening.length
      ++ (inner ++ m.closing ++ rest) := by
    have hcut := congrArg (List.drop before.length) (hbehind.symm.trans hcontent)
    rw [List.append_assoc, List.drop_left, List.append_assoc, List.drop_append_of_le_length hle,
      ← List.append_assoc] at hcut
    have hlength : m.opening.length ≤ (start.drop before.length ++ m.opening).length := by
      rw [List.length_append]
      exact Nat.le_add_left _ _
    rw [← List.drop_append_of_le_length hlength, ← hcut, List.drop_left]
  have hclosing : contains behind m.closing = true := by
    rw [hdrop, ← List.append_assoc, ← List.append_assoc]
    exact contains_iff_isInfix.mpr ⟨_, rest, rfl⟩
  obtain ⟨⟨middle, after⟩, hinner⟩ := Option.isSome_iff_exists.mp hclosing
  obtain ⟨rfl, hnext⟩ := (splitAt?_eq_some_iff h.closing.ne_nil).mp hinner
  exact ⟨before, middle, after, hbehind, hfirst, hnext⟩

namespace FirstSection

variable (hsection : m.FirstSection content before middle after) (h : m.AreTags)

include hsection h

/-- The first section is found when no closing mark stands before it. -/
theorem extract_eq (hbefore : ¬ m.closing <:+: before) :
    m.extract content = m.opening ++ middle ++ m.closing := by
  obtain ⟨hcontent, hopened, hclosed⟩ := hsection
  have hopening := (splitAt?_eq_some_iff h.opening.ne_nil).mpr ⟨hcontent, hopened⟩
  have hclosing := (splitAt?_eq_some_iff h.closing.ne_nil).mpr ⟨rfl, hclosed⟩
  rw [← contains_iff_isInfix, Bool.not_eq_true] at hbefore
  have hparts : m.parts? content = some (before, middle, after) :=
    h.parts?_eq_some_iff.mpr ⟨hcontent, ⟨contains_of_splitAt? h.opening.ne_nil hopening, hbefore⟩,
      contains_of_splitAt? h.closing.ne_nil hclosing⟩
  rw [h.extract_eq, hparts]

/-- A closing mark before the first section hides it: an empty section is found in its place. -/
theorem extract_eq_of_early (hbefore : m.closing <:+: before) :
    m.extract content = m.extract [] := by
  obtain ⟨hcontent, hopened, -⟩ := hsection
  have hopening := (splitAt?_eq_some_iff h.opening.ne_nil).mpr ⟨hcontent, hopened⟩
  have hnone : m.parts? content = none := by
    rw [parts?, hopening, Option.bind_some]
    exact if_pos (contains_iff_isInfix.mpr hbefore)
  have hempty : m.parts? [] = none := by
    rw [parts?, splitAt?_eq_none_iff.mpr h.opening.contains_nil]
    rfl
  rw [h.extract_eq, hnone, h.extract_eq, hempty]

end FirstSection

end Markers

/-! ## The section that a README carries over -/

namespace Readme

variable (s : UsageStyle) (c : ModuleContext) (d : Description) (u : UsageExamples)

/-- A README holds the section that it carries over. -/
theorem extract_infix_assemble (existing : Text) :
    Markers.tfDocs.extract existing <:+: assemble s c d u (some existing) := by
  rw [assemble, Option.getD_some, sections_eq, join_concat _ madeSections_ne_nil]
  exact ⟨_, ['\n'], rfl⟩

/-- A README with an opening mark and a closing mark somewhere behind it has a first section of
generated documentation.  A README that is made over it holds this section as it was when no closing
mark stands before it.  Otherwise the section is lost: the README is made as if there had been none
before. -/
theorem assemble_keeps_section (existing : Text) :
    ((∃ start inner rest, existing = start ++ Markers.tfDocs.opening
        ++ (inner ++ Markers.tfDocs.closing ++ rest)) →
      ∃ before middle after, Markers.tfDocs.FirstSection existing before middle after) ∧
    ∀ before middle after, Markers.tfDocs.FirstSection existing before middle after →
      (¬ Markers.tfDocs.closing <:+: before →
        Markers.tfDocs.opening ++ middle ++ Markers.tfDocs.closing
          <:+: assemble s c d u (some existing)) ∧
      (Markers.tfDocs.closing <:+: before →
        assemble s c d u (some existing) = assemble s c d u none) := by
  have htags := Markers.areTags_tfDocs
  refine ⟨fun ⟨_, _, _, hcontent⟩ => htags.exists_firstSection hcontent, ?_⟩
  intro before middle after hsection
  refine ⟨fun hbefore => ?_, fun hbefore => ?_⟩
  · rw [← hsection.extract_eq htags hbefore]
    exact extract_infix_assemble s c d u existing
  · have hextract := hsection.extract_eq_of_early htags hbefore
    rw [assemble, assemble, Option.getD_some, Option.getD_none, sections_eq, sections_eq, hextract]

/-- The section is kept behind other text.  It is lost when that text mentions the closing mark. -/
theorem assemble_keeps_section_mentioned :
    let context : ModuleContext := { info := ⟨"m", "./m", "v1.0.0"⟩ }
    let usage : UsageExamples := ⟨⟨"x", none, none⟩, []⟩
    let docs : Text := "<!-- BEGIN_TF_DOCS -->\nInputs\n<!-- END_TF_DOCS -->"
    let mention : Text := "Ends with <!-- END_TF_DOCS -->.\n"
    docs <:+: assemble {} context {} usage (some ("Old.\n" ++ docs)) ∧
      assemble {} context {} usage (some (mention ++ docs)) = assemble {} context {} usage none ∧
      ¬ docs <:+: assemble {} context {} usage (some (mention ++ docs)) := by
  intro context usage docs mention
  have htags := Markers.areTags_tfDocs
  have hsection : ∀ before, index? Markers.tfDocs.opening (before ++ docs) = some before.length →
      Markers.tfDocs.FirstSection (before ++ docs) before "\nInputs\n" [] := fun before hindex =>
    { parts := by rw [List.append_assoc]; rfl
      opened := (index?_eq_some_iff htags.opening.ne_nil).mp hindex
      closed := (index?_eq_some_iff htags.closing.ne_nil).mp (by decide) }
  obtain ⟨-, hkeeps⟩ := assemble_keeps_section {} context {} usage ("Old.\n" ++ docs)
  obtain ⟨-, hloses⟩ := assemble_keeps_section {} context {} usage (mention ++ docs)
  obtain ⟨hkept, -⟩ := hkeeps "Old.\n" _ _ (hsection "Old.\n" (by decide +kernel))
  obtain ⟨-, hlost⟩ := hloses mention _ _ (hsection mention (by decide +kernel))
  refine ⟨hkept (by decide), hlost (by decide +kernel), ?_⟩
  rw [hlost (by decide +kernel)]
  decide +kernel

end Readme

end ModuleDocs
