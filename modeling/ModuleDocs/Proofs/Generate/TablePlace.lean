import ModuleDocs.Proofs.Generate.Regeneration
import ModuleDocs.Proofs.Text.LineEnds

/-! # The place of the table

    The table of modules goes between two marks of a README that people
    write.  What they wrote before and behind the marks goes through reading
    and writing, so its line ends become newlines.  Nothing else about it
    changes: its bytes are the ones that were there exactly if they hold no
    carriage return. -/

namespace ModuleDocs

open Text

/-- There is room where a file stands. -/
theorem Tree.hasRoom_of_file {t : Tree} {l : Location} {bytes : List UInt8}
    (h : t.node? l = some (.file bytes)) : t.HasRoom l := by
  have hsome : t.node? l ≠ none := by simp [h]
  have hl : l ≠ [] := by
    rintro rfl
    rw [node?_nil] at h
    exact nomatch h
  refine ⟨hl, t.node?_dropLast hl hsome, by simp [h], fun name hname => ?_⟩
  exact t.isFileName_of_node? hsome name (List.mem_of_getLast? hname)

namespace Markers

variable {m : Markers} {before middle after : Text}

/-- The parts of a document that was read from a file are the parts of the file, each read on its
own. -/
theorem AreTags.parts?_withNewlines (h : m.AreTags) (hbefore : m.AbsentFrom before)
    (hmiddle : contains middle m.closing = false) :
    m.parts? (withNewlines (before ++ m.opening ++ (middle ++ m.closing ++ after)))
      = some (withNewlines before, withNewlines middle, withNewlines after) := by
  have hmark : ∀ {tag : Text}, IsTag tag → ∀ u t : Text,
      withNewlines (u ++ (tag ++ t)) = withNewlines u ++ (tag ++ withNewlines t) := by
    intro tag htag u t
    have htext : tag ++ t = '<' :: (tag.tail ++ t) := by
      rw [← List.cons_append, ← htag.eq_cons]
    rw [← withNewlines_append_of_not_mem htag.lines.2, htext,
      withNewlines_append_cons (by decide)]
  refine h.parts?_eq_some_iff.mpr ⟨?_, ?_, h.closing.contains_withNewlines hmiddle⟩
  · rw [List.append_assoc, List.append_assoc middle, hmark h.opening, hmark h.closing,
      List.append_assoc, List.append_assoc]
  · exact ⟨h.opening.contains_withNewlines hbefore.1, h.closing.contains_withNewlines hbefore.2⟩

end Markers

namespace Generate

variable {w : Workspace} {base : Text} {root l : Location} {before middle after : Text}

/-- The bytes of the root README with the table between its marks. -/
def withTable (before table after : Text) : List UInt8 :=
  utf8 (withNewlines before ++ Markers.modules.opening
    ++ ('\n' :: table ++ ['\n'] ++ Markers.modules.closing ++ withNewlines after))

/-- The bytes up to the opening mark and from the closing mark on are kept exactly if there is no
carriage return among them. -/
theorem withTable_keeps_iff (before table after : Text) :
    (∃ between, withTable before table after
        = utf8 (before ++ Markers.modules.opening) ++ between
          ++ utf8 (Markers.modules.closing ++ after)) ↔
      '\r' ∉ before ∧ '\r' ∉ after := by
  have hshape : withTable before table after
      = utf8 (withNewlines before ++ Markers.modules.opening) ++ utf8 ('\n' :: table ++ ['\n'])
        ++ utf8 (Markers.modules.closing ++ withNewlines after) := by
    rw [withTable, ← utf8_append, ← utf8_append, List.append_assoc ('\n' :: table ++ ['\n']),
      ← List.append_assoc (withNewlines before ++ Markers.modules.opening)]
  rw [hshape]
  constructor
  · rintro ⟨between, hbetween⟩
    refine ⟨?_, (utf8_suffix_iff (by decide) (by decide) after _).mp ⟨_, hbetween.symm⟩⟩
    simp only [utf8_append, List.append_assoc] at hbetween
    exact (utf8_prefix_iff before _).mp ⟨_, hbetween.symm⟩
  · rintro ⟨hbefore, hafter⟩
    rw [withNewlines_eq_self hbefore, withNewlines_eq_self hafter]
    exact ⟨_, rfl⟩

/-- Refreshing the table of a README with marks in order succeeds.  The README then holds the table
between the marks, and before and behind them what was there with a newline for every line end;
nothing else in the workspace changes.  So the bytes up to the opening mark and from the closing
mark on are what they were exactly if they hold no carriage return. -/
theorem updateRoot_between_marks (hroot : rootOf w base = .ok root)
    (hl : w.tree.locate w.cwd ((Path.absolute root).child readmeName) = .ok l)
    (hnode : w.tree.node? l = some (.file (utf8 (before ++ Markers.modules.opening
      ++ (middle ++ Markers.modules.closing ++ after)))))
    (hbefore : Markers.modules.AbsentFrom before)
    (hmiddle : contains middle Markers.modules.closing = false) (generations : List Generation) :
    let bytes := withTable before (TableRow.table (generations.filterMap (row? w root))) after
    (∃ written, updateRoot w false base generations
        = pure (.ok (true, { w with tree := written })) ∧
      ∀ k, written.node? k = if k = l then some (.file bytes) else w.tree.node? k) ∧
    ((∃ between, bytes = utf8 (before ++ Markers.modules.opening) ++ between
        ++ utf8 (Markers.modules.closing ++ after)) ↔ '\r' ∉ before ∧ '\r' ∉ after) := by
  intro bytes
  refine ⟨⟨w.tree.withFile l bytes, ?_, ?_⟩, withTable_keeps_iff before _ after⟩
  -- the marks are found where they were written, whatever line ends stand around them
  · have hparts : Markers.modules.parts? _
        = some (withNewlines before, withNewlines middle, withNewlines after) :=
      Markers.areTags_modules.parts?_withNewlines hbefore hmiddle
    have hreplace := Markers.areTags_modules.replace?_eq
      (withNewlines (before ++ Markers.modules.opening
        ++ (middle ++ Markers.modules.closing ++ after)))
      (TableRow.table (generations.filterMap (row? w root)))
    rw [hparts] at hreplace
    have hwrite := Tree.write_eq hl (Tree.hasRoom_of_file hnode) bytes
    rw [updateRoot, hroot]
    exact updateTable_eq (existing?_utf8 hl hnode) hreplace hwrite
  · exact Tree.node?_withFile (Tree.hasRoom_of_file hnode) bytes

/-- Above the base directory there is a README whose first line ends in two characters. -/
def twoLineEnds : Workspace where
  tree :=
    (Tree.empty.put ["README.md"]
        (.file (utf8 "# Modules\r\n<!-- BEGIN_MODULES -->\n<!-- END_MODULES -->\n"))
        hasRoom_readmeName).put
      ["base"] .directory (by decide +kernel)
  cwd := []
  git := .silent
  chat := fun _ => .noChoices

/-- The first line, before the opening mark, loses its carriage return. -/
theorem updateRoot_between_marks_twoLineEnds :
    (∃ written, updateRoot twoLineEnds false "base" []
        = pure (.ok (true, { twoLineEnds with tree := written })) ∧
      written.node? ["README.md"] = some (.file (utf8 ("# Modules\n<!-- BEGIN_MODULES -->\n"
        ++ "| Module | Type | Description |\n|--------|------|-------------|\n"
        ++ "<!-- END_MODULES -->\n")))) ∧
    ¬ ∃ between, withTable "# Modules\r\n" (TableRow.table []) "\n"
      = utf8 ("# Modules\r\n" ++ Markers.modules.opening) ++ between
        ++ utf8 (Markers.modules.closing ++ "\n") := by
  obtain ⟨⟨written, hupdate, hnode⟩, hkeeps⟩ :=
    @updateRoot_between_marks twoLineEnds "base" [] ["README.md"] "# Modules\r\n" "\n" "\n"
      rfl rfl rfl (by decide +kernel) (by decide +kernel) []
  refine ⟨⟨written, hupdate, ?_⟩, fun h => (hkeeps.mp h).1 (by decide)⟩
  rw [hnode, if_pos rfl]
  decide +kernel

end Generate

end ModuleDocs
