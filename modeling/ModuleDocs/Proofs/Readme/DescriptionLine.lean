import ModuleDocs.Proofs.Text.Occurrences
import ModuleDocs.Readme.Document

/-! # The description that a README gives

    The table of modules shows for each module the first line of the
    description in its README.  What is read back from a README is the
    description that it was written with.

    Two headings of the document could be taken for the one of the
    description section: the title above it, which holds the name of the
    module, and whatever the sections below it hold.  The title is followed
    by an empty line and another heading, so it gives no description.  A
    section with a description ends the search, whatever stands below. -/

namespace ModuleDocs.Readme

open Text

variable {t : Text} {c : Char}

theorem newline_not_mem_descriptionHeading : '\n' ∉ descriptionHeading := by decide

theorem descriptionHeading_ne_nil : descriptionHeading ≠ [] := by decide

theorem firstLine_append_newline (u t : Text) : firstLine (u ++ '\n' :: t) = firstLine u := by
  unfold firstLine
  induction u with
  | nil => rfl
  | cons d u ih => simp only [List.cons_append, List.takeWhile_cons, ih]

/-! ## Where a section may begin -/

theorem descriptionAt?_eq_none (h : dropPrefix? descriptionHeading t = none) :
    descriptionAt? t = none := by
  rw [descriptionAt?, h, Option.bind_none]

theorem descriptionAt?_heading_append (hnewline : c ≠ '\n') (hhash : c ≠ '#') (t : Text) :
    descriptionAt? (descriptionHeading ++ '\n' :: '\n' :: c :: t) = some (firstLine (c :: t)) := by
  rw [descriptionAt?, dropPrefix?_append]
  exact if_neg (not_or.mpr ⟨hnewline, hhash⟩)

/-- A heading with two empty lines below it gives no description. -/
theorem descriptionAt?_heading_newlines (t : Text) :
    descriptionAt? (descriptionHeading ++ '\n' :: '\n' :: '\n' :: t) = none := by
  rw [descriptionAt?, dropPrefix?_append]
  rfl

/-- A line gives no description when the next one is empty and then there is a heading, even if the
line itself begins as the heading of a description section. -/
theorem descriptionAt?_line_append {line : Text} (hline : '\n' ∉ line) (t : Text) :
    descriptionAt? (line ++ '\n' :: '\n' :: '#' :: t) = none := by
  rw [descriptionAt?, dropPrefix?_append_cons newline_not_mem_descriptionHeading]
  cases hd : dropPrefix? descriptionHeading line with
  | none => rfl
  | some rest =>
      have hrest : '\n' ∉ rest := fun hm =>
        hline (dropPrefix?_eq_some_iff.mp hd ▸ List.mem_append_right _ hm)
      rw [Option.map_some, Option.bind_some, skipBlanks, dropWhile_append_stop (by decide)]
      -- when anything but blanks is left of the line, the heading is not at its end
      cases hleft : rest.dropWhile isBlank with
      | nil => rfl
      | cons e left =>
          have hmem : e ∈ rest :=
            (List.dropWhile_subset isBlank) (hleft ▸ List.mem_cons_self)
          have he : e ≠ '\n' := fun he => hrest (he ▸ hmem)
          rw [List.cons_append]
          split
          · next heq => exact absurd (List.cons.inj heq).1 he
          · rfl

/-! ## The first section that has a description -/

theorem descriptionIn?_newline_cons (t : Text) : descriptionIn? ('\n' :: t) = descriptionIn? t := by
  have hnone : dropPrefix? descriptionHeading ('\n' :: t) = none :=
    dropPrefix?_eq_none_of_head (by decide) _ t
  rw [descriptionIn?, descriptionAt?_eq_none hnone]

/-- A line above an empty line and a heading is passed over. -/
theorem descriptionIn?_line_append {line : Text} (hline : '\n' ∉ line) (t : Text) :
    descriptionIn? (line ++ '\n' :: '\n' :: '#' :: t) = descriptionIn? ('#' :: t) := by
  induction line with
  | nil => rw [List.nil_append, descriptionIn?_newline_cons, descriptionIn?_newline_cons]
  | cons d line ih =>
      rw [List.cons_append, descriptionIn?, ← List.cons_append, descriptionAt?_line_append hline]
      exact ih fun hm => hline (List.mem_cons_of_mem d hm)

/-- A text without the heading gives no description. -/
theorem descriptionIn?_eq_none (h : contains t descriptionHeading = false) :
    descriptionIn? t = none := by
  induction t with
  | nil => rfl
  | cons d t ih =>
      obtain ⟨hhere, hrest⟩ := Bool.or_eq_false_iff.mp (contains_cons d t _ ▸ h)
      rw [Option.isSome_eq_false_iff, Option.isNone_iff_eq_none] at hhere
      rw [descriptionIn?, descriptionAt?_eq_none hhere]
      exact ih hrest

/-- A section with a description gives it, whatever stands below. -/
theorem descriptionIn?_section {summary : Text} (hne : summary ≠ [])
    (hnewline : summary.head? ≠ some '\n') (hhash : summary.head? ≠ some '#') (below : Text) :
    descriptionIn? (descriptionHeading ++ '\n' :: '\n' :: (summary ++ '\n' :: below))
      = some (firstLine summary) := by
  obtain ⟨c, rest, rfl⟩ := List.exists_cons_of_ne_nil hne
  have hat := descriptionAt?_heading_append (fun hc => hnewline (congrArg some hc))
    (fun hc => hhash (congrArg some hc)) (rest ++ '\n' :: below)
  rw [← List.cons_append, firstLine_append_newline] at hat
  obtain ⟨d, heading, hheading⟩ := List.exists_cons_of_ne_nil descriptionHeading_ne_nil
  rw [hheading] at hat ⊢
  rw [List.cons_append, descriptionIn?, ← List.cons_append, hat]

/-- A section without a description gives none, unless there is such a heading below it. -/
theorem descriptionIn?_empty_section {below : Text}
    (hbelow : contains below descriptionHeading = false) :
    descriptionIn? (descriptionHeading ++ '\n' :: '\n' :: '\n' :: below) = none := by
  have hline := newline_not_mem_descriptionHeading
  have hrest : contains (descriptionHeading.tail ++ '\n' :: '\n' :: '\n' :: below)
      descriptionHeading = false := by
    rw [contains_append_newline descriptionHeading_ne_nil hline,
      contains_newline_cons descriptionHeading_ne_nil hline,
      contains_newline_cons descriptionHeading_ne_nil hline, hbelow]
    decide
  have hat := descriptionAt?_heading_newlines below
  obtain ⟨d, heading, hheading⟩ := List.exists_cons_of_ne_nil descriptionHeading_ne_nil
  rw [hheading, List.cons_append] at hat ⊢
  rw [descriptionIn?, hat]
  rw [hheading, List.tail_cons, ← hheading] at hrest
  exact descriptionIn?_eq_none hrest

/-! ## READMEs -/

variable (s : UsageStyle) (c : ModuleContext) (d : Description) (u : UsageExamples)
  (existing : Option Text)

/-- The sections of a README below its description. -/
def sectionsBelow : List Text := (sections s c d u (existing.getD [])).drop 2

/-- A README is its title, its description section, and the sections below. -/
theorem assemble_eq :
    assemble s c d u existing
      = ("# Module: " ++ c.info.name) ++ '\n' :: '\n' :: (descriptionHeading ++
          '\n' :: '\n' :: (d.summary ++ '\n' :: '\n' ::
            (join "\n\n" (sectionsBelow s c d u existing) ++ ['\n']))) := by
  have hsections : sections s c d u (existing.getD [])
      = ("# Module: " ++ c.info.name) :: (descriptionHeading ++ "\n\n" ++ d.summary) ::
          sectionsBelow s c d u existing := rfl
  obtain ⟨next, rest, hbelow⟩ : ∃ next rest, sectionsBelow s c d u existing = next :: rest :=
    ⟨_, _, rfl⟩
  have hbreak : ("\n\n" : Text) = ['\n', '\n'] := by decide
  unfold assemble
  rw [hsections, hbelow, join_cons_cons, join_cons_cons, hbreak]
  simp only [List.append_assoc, List.cons_append, List.nil_append]

/-- The title of a README with a name on one line gives no description. -/
theorem descriptionIn?_assemble (hname : '\n' ∉ c.info.name) :
    descriptionIn? (assemble s c d u existing)
      = descriptionIn? (descriptionHeading ++ '\n' :: '\n' :: (d.summary ++ '\n' :: '\n' ::
          (join "\n\n" (sectionsBelow s c d u existing) ++ ['\n']))) := by
  have htitle : '\n' ∉ ("# Module: " ++ c.info.name : Text) := by
    rw [List.mem_append, not_or]
    exact ⟨by decide, hname⟩
  have hhash : descriptionHeading = '#' :: descriptionHeading.tail := by decide
  rw [assemble_eq, hhash, List.cons_append, descriptionIn?_line_append htitle]

/-- A description is read back from the README that it was written to: its first line, whatever the
other sections hold.  From a README with an empty description nothing is read, when no section below
it holds the heading of the description section. -/
theorem descriptionOf_assemble (hname : '\n' ∉ c.info.name) (htrim : trim d.summary = d.summary) :
    (d.summary ≠ [] → d.summary.head? ≠ some '#' →
      descriptionOf (assemble s c d u existing) = trim (firstLine d.summary)) ∧
    (d.summary = [] →
      (∀ part ∈ sectionsBelow s c d u existing, contains part descriptionHeading = false) →
      descriptionOf (assemble s c d u existing) = []) := by
  unfold descriptionOf
  rw [descriptionIn?_assemble s c d u existing hname]
  refine ⟨fun hne hhash => ?_, fun hempty hbelow => ?_⟩
  · have hnewline : d.summary.head? ≠ some '\n' := fun hd =>
      absurd (head_of_trimmed htrim '\n' hd) (by decide)
    rw [descriptionIn?_section hne hnewline hhash, Option.getD_some]
  · have hne := descriptionHeading_ne_nil
    have hline := newline_not_mem_descriptionHeading
    have hrest : contains ('\n' :: (join "\n\n" (sectionsBelow s c d u existing) ++ ['\n']))
        descriptionHeading = false := by
      rw [contains_newline_cons hne hline, contains_append_newline hne hline,
        contains_join hne hline (by decide) (by decide) hbelow, contains_nil hne]
      rfl
    rw [hempty, List.nil_append, descriptionIn?_empty_section hrest]
    rfl

/-- A module of the given name. -/
def namedContext (name : Text) : ModuleContext := { info := ⟨name, "./m", "v1.0.0"⟩ }

/-- The heading in the name of a module, in a feature, in an example and in the README that is there
already does not hide the description.  An empty one is read as empty. -/
theorem descriptionOf_assemble_headings :
    descriptionOf (assemble {} (namedContext "## Description")
        { summary := "Makes queues. \n\nMore.", features := ["## Description\n\nA feature."] }
        { basic := ⟨"## Description\n\nAn example.", none, none⟩ }
        (some "<!-- BEGIN_TF_DOCS -->\n## Description\n\nOld.\n<!-- END_TF_DOCS -->"))
      = "Makes queues." ∧
    descriptionOf (assemble {} (namedContext "queue") {} ⟨⟨"x", none, none⟩, []⟩ none) = [] := by
  constructor
  · obtain ⟨hgiven, -⟩ := descriptionOf_assemble {} (namedContext "## Description")
      { summary := "Makes queues. \n\nMore.", features := ["## Description\n\nA feature."] }
      { basic := ⟨"## Description\n\nAn example.", none, none⟩ }
      (some "<!-- BEGIN_TF_DOCS -->\n## Description\n\nOld.\n<!-- END_TF_DOCS -->")
      (by decide) (by decide)
    exact (hgiven (by decide) (by decide)).trans (by decide)
  · obtain ⟨-, hempty⟩ := descriptionOf_assemble {} (namedContext "queue") {}
      ⟨⟨"x", none, none⟩, []⟩ none (by decide) (by decide)
    exact hempty rfl (by decide +kernel)

end ModuleDocs.Readme
