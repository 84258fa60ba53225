import ModuleDocs.Proofs.Generate.TablePlace
import ModuleDocs.Proofs.Readme.FirstSection
import ModuleDocs.Proofs.Readme.TableCells

/-! # The rows of the table

    The table in the root README has one row for each module whose README
    could be made, in the order of the modules, and none for the others.  A
    row shows the linked name of the module, its type, and the description
    that its README gives.

    Names and links are taken to be free of bars and line ends.  The
    description may be any text that stands in a README: it is on one line,
    but its bars are not escaped, so it fills one cell exactly when it has no
    bar that parts a line. -/

namespace ModuleDocs

open Text

namespace Readme

/-- The description that is found is on one line. -/
theorem newline_not_mem_of_descriptionIn? {t line : Text} (h : descriptionIn? t = some line) :
    '\n' ∉ line := by
  -- where a description is found, it is taken up to the end of its line
  have hat : ∀ t : Text, descriptionAt? t = some line → '\n' ∉ line := by
    intro t ht
    obtain ⟨rest, -, hrest⟩ := Option.bind_eq_some_iff.mp ht
    split at hrest
    · next c t _ =>
        split at hrest
        · exact nomatch hrest
        · obtain rfl := Option.some.inj hrest
          exact fun hm => by simpa using List.mem_takeWhile_imp hm
    · exact nomatch hrest
  induction t with
  | nil => exact nomatch h
  | cons c t ih =>
      rw [descriptionIn?] at h
      split at h
      · next found hfound => exact hat (c :: t) (hfound.trans h)
      · exact ih h

/-- The description that a README gives is on one line. -/
theorem newline_not_mem_descriptionOf (readme : Text) : '\n' ∉ descriptionOf readme := by
  intro hmem
  have hline := mem_of_mem_trim hmem
  cases hfound : descriptionIn? readme with
  | none =>
      rw [hfound] at hline
      exact nomatch hline
  | some line =>
      rw [hfound] at hline
      exact newline_not_mem_of_descriptionIn? hfound hline

end Readme

namespace Generate

variable {w : Workspace} {root : Location} {g : Generation} {generations : List Generation}

/-- The way to the directory of a generation, seen from the root. -/
def linkOf (w : Workspace) (root : Location) (g : Generation) : Text :=
  (Path.mk [] (Path.between root (g.directory.resolve w.cwd))).toText

/-- The row of a module with the given README. -/
def rowOf (w : Workspace) (root : Location) (g : Generation) (readme : Text) : TableRow :=
  ⟨g.directory.name, linkOf w root g, moduleType, Readme.descriptionOf readme⟩

/-- A generation with a README has the row of it. -/
theorem row?_of_ok {readme : Text} (h : g.outcome = .ok readme) :
    row? w root g = some (rowOf w root g readme) := by
  rw [row?, h]
  rfl

theorem row?_of_error {e : GenerateError} (h : g.outcome = .error e) : row? w root g = none := by
  rw [row?, h]

/-- A generation whose directory has a name and a way to it without bars and line ends. -/
structure IsPlaced (w : Workspace) (root : Location) (g : Generation) : Prop where
  name : '|' ∉ g.directory.name ∧ '\n' ∉ g.directory.name
  link : '|' ∉ linkOf w root g ∧ '\n' ∉ linkOf w root g

/-- The row of a module is plain, whatever its README holds. -/
theorem IsPlaced.isPlain (h : IsPlaced w root g) (readme : Text) :
    (rowOf w root g readme).IsPlain where
  noBars := ⟨h.name.1, h.link.1, (by decide : '|' ∉ moduleType)⟩
  oneLine := ⟨h.name.2, h.link.2, (by decide : '\n' ∉ moduleType),
    Readme.newline_not_mem_descriptionOf readme⟩
  trimmed := ⟨(by decide : trim moduleType = moduleType), trim_trim _⟩

/-- Whether a line shows a generation: it has the cells of the name and the type and at least one
more for the description, and no further cells exactly when no bar parts the description. -/
def Shows (w : Workspace) (root : Location) (g : Generation) (line : Text) : Prop :=
  ∃ readme, g.outcome = .ok readme ∧
    let name : Text := "[" ++ g.directory.name ++ "](./" ++ linkOf w root g ++ ")"
    let description := Readme.descriptionOf readme
    (TableRow.cells line).take 2 = [name, moduleType] ∧
      (TableRow.cells line).length = 3 + TableRow.bars description ∧
      (TableRow.cells line = [name, moduleType, description] ↔ TableRow.bars description = 0)

/-- The line of a row shows its module. -/
theorem IsPlaced.shows {readme : Text} (h : IsPlaced w root g) (hok : g.outcome = .ok readme) :
    Shows w root g (rowOf w root g readme).line := by
  have hplain := h.isPlain readme
  refine ⟨readme, hok, ?_, hplain.length_cells, hplain.cells_line_eq_iff⟩
  rw [hplain.cells_line]
  rfl

/-- The rows show the generations that succeeded, in order. -/
theorem forall₂_shows (h : ∀ g ∈ generations, IsPlaced w root g) :
    List.Forall₂ (Shows w root) (generations.filter (·.isOk))
      ((generations.filterMap (row? w root)).map TableRow.line) := by
  induction generations with
  | nil => exact .nil
  | cons g generations ih =>
      obtain ⟨hg, hrest⟩ := List.forall_mem_cons.mp h
      cases houtcome : g.outcome with
      | ok readme =>
          have hok : g.isOk = true := by rw [Generation.isOk, houtcome]
          rw [List.filter_cons_of_pos hok, List.filterMap_cons_some (row?_of_ok houtcome),
            List.map_cons]
          exact .cons (hg.shows houtcome) (ih hrest)
      | error e =>
          -- a failed generation is filtered out on the one side and has no row on the other
          have hfailed : ¬ g.isOk = true := by rw [Generation.isOk, houtcome]; exact Bool.false_ne_true
          rw [List.filter_cons_of_neg hfailed, List.filterMap_cons_none (row?_of_error houtcome)]
          exact ih hrest

/-- The rows of the table are plain. -/
theorem isPlain_of_mem_rows (h : ∀ g ∈ generations, IsPlaced w root g) :
    ∀ row ∈ generations.filterMap (row? w root), row.IsPlain := by
  intro row hrow
  obtain ⟨g, hg, hsome⟩ := List.mem_filterMap.mp hrow
  cases houtcome : g.outcome with
  | ok readme =>
      rw [row?_of_ok houtcome] at hsome
      exact Option.some.inj hsome ▸ (h g hg).isPlain readme
  | error e =>
      rw [row?_of_error houtcome] at hsome
      exact nomatch hsome

/-- Refreshing the table of a root README with the two marks in order succeeds and puts the table
between them.  Below its two head lines the table has one line for each generation that succeeded,
in order, and none for the others.  Parted at its bars, such a line has the cells of the linked name
and of the type, and then those of the description: one more cell than bars that part it.  So there
are exactly the three cells that are meant exactly when no bar parts the description. -/
theorem updateRoot_rows {base text : Text} {i j : Nat} (hroot : rootOf w base = .ok root)
    (htext : existing? w ((Path.absolute root).child readmeName) = .ok (some text))
    (hopening : IsFirstAt Markers.modules.opening text i)
    (hclosing : IsFirstAt Markers.modules.closing text j) (hij : i ≤ j)
    (hplaced : ∀ g ∈ generations, IsPlaced w root g) :
    let table := TableRow.table (generations.filterMap (row? w root))
    let updated := text.take (i + Markers.modules.opening.length) ++ '\n' :: table
      ++ '\n' :: text.drop j
    (∃ l, w.tree.locate w.cwd ((Path.absolute root).child readmeName) = .ok l ∧
      updateRoot w false base generations
        = pure (.ok (true, { w with tree := w.tree.withFile l (utf8 updated) }))) ∧
    ∃ rows, lines table = TableRow.head ++ rows ∧
      List.Forall₂ (Shows w root) (generations.filter (·.isOk)) rows := by
  intro table updated
  constructor
  · -- the README is there, so it can be written, and its marks are found where they stand first
    obtain ⟨l, bytes, hl, hnode⟩ := file_of_existing? htext
    have hpositions : Markers.modules.positions? text = some (i, j) :=
      Markers.areTags_modules.positions?_eq_some_iff.mpr ⟨hopening, hclosing, hij⟩
    have hreplace : Markers.modules.replace? text table = some updated := by
      rw [Markers.replace?, hpositions]
      rfl
    have hwrite := Tree.write_eq hl (Tree.hasRoom_of_file hnode) (utf8 updated)
    refine ⟨l, hl, ?_⟩
    rw [updateRoot, hroot]
    exact updateTable_eq htext hreplace hwrite
  · exact ⟨_, TableRow.lines_table (isPlain_of_mem_rows hplaced), forall₂_shows hplaced⟩

/-- Above the base directory there is a README with a place for the table. -/
def placeForTable : Workspace where
  tree := Tree.empty.put [readmeName]
    (.file (utf8 "# Modules\n<!-- BEGIN_MODULES -->\n<!-- END_MODULES -->\n")) hasRoom_readmeName
  cwd := []
  git := .silent
  chat := fun _ => .noChoices

/-- Two modules with a bar in their descriptions, of which the second escapes it, and between them
one that failed. -/
def describedWithBars : List Generation :=
  [ ⟨.ofText "base/a", true, .ok "## Description\n\nReads a | b\n"⟩,
    ⟨.ofText "base/b", true, .error (.describer "no answer")⟩,
    ⟨.ofText "base/c", true, .ok "## Description\n\nReads a \\| b\n"⟩ ]

/-- The first description makes a fourth cell, and the other one fills the third. -/
theorem updateRoot_rows_bars :
    let table := TableRow.table (describedWithBars.filterMap (row? placeForTable []))
    let updated : Text := "# Modules\n<!-- BEGIN_MODULES -->\n" ++ table
      ++ "\n<!-- END_MODULES -->\n"
    (∃ l, updateRoot placeForTable false "base" describedWithBars = pure (.ok (true,
      { placeForTable with tree := placeForTable.tree.withFile l (utf8 updated) }))) ∧
    ∃ line line', lines table = TableRow.head ++ [line, line'] ∧
      (TableRow.cells line).length = 4 ∧
      TableRow.cells line' = ["[c](./base/c)", "Terraform/OpenTofu", "Reads a \\| b"] := by
  intro table updated
  have htags := Markers.areTags_modules
  have htext : existing? placeForTable ((Path.absolute []).child readmeName)
      = .ok (some "# Modules\n<!-- BEGIN_MODULES -->\n<!-- END_MODULES -->\n") :=
    (existing?_utf8 rfl rfl).trans (congrArg (Except.ok ∘ some) (withNewlines_eq_self (by decide)))
  have hroot : rootOf placeForTable "base" = .ok [] := rfl
  have hplaced : ∀ g ∈ describedWithBars, IsPlaced placeForTable [] g := by
    intro g hg
    have hnames : ∀ g ∈ describedWithBars, ('|' ∉ g.directory.name ∧ '\n' ∉ g.directory.name) ∧
        '|' ∉ linkOf placeForTable [] g ∧ '\n' ∉ linkOf placeForTable [] g := by
      simp only [describedWithBars, List.forall_mem_cons]
      decide
    exact ⟨(hnames g hg).1, (hnames g hg).2⟩
  obtain ⟨⟨l, -, hupdate⟩, rows, hlines, hshows⟩ :=
    updateRoot_rows hroot htext
      ((index?_eq_some_iff htags.opening.ne_nil).mp (by decide +kernel : _ = some 10))
      ((index?_eq_some_iff htags.closing.ne_nil).mp (by decide +kernel : _ = some 33))
      (by decide) hplaced
  refine ⟨⟨l, hupdate.trans ?_⟩, ?_⟩
  · have hbefore : ("# Modules\n<!-- BEGIN_MODULES -->\n<!-- END_MODULES -->\n" : Text).take
        (10 + Markers.modules.opening.length) = "# Modules\n<!-- BEGIN_MODULES -->" := by decide
    have hbehind : ("# Modules\n<!-- BEGIN_MODULES -->\n<!-- END_MODULES -->\n" : Text).drop 33
        = "<!-- END_MODULES -->\n" := by decide
    have hupdated : updated = "# Modules\n<!-- BEGIN_MODULES -->" ++ '\n' :: table
        ++ '\n' :: "<!-- END_MODULES -->\n" := by
      have hfront : ("# Modules\n<!-- BEGIN_MODULES -->\n" : Text)
          = "# Modules\n<!-- BEGIN_MODULES -->" ++ ['\n'] := by decide
      have hback : ("\n<!-- END_MODULES -->\n" : Text) = '\n' :: "<!-- END_MODULES -->\n" := by
        decide
      simp only [updated, hfront, hback, List.append_assoc, List.cons_append, List.nil_append]
    rw [hbefore, hbehind, hupdated]
  · obtain ⟨line, _, hfirst, hrest, rfl⟩ := List.forall₂_cons_left_iff.mp hshows
    obtain ⟨line', _, hsecond, hnone, rfl⟩ := List.forall₂_cons_left_iff.mp hrest
    obtain rfl := List.forall₂_nil_left_iff.mp hnone
    obtain ⟨readme, hreadme, -, hlength, -⟩ := hfirst
    obtain ⟨readme', hreadme', -, -, hcells⟩ := hsecond
    obtain rfl := Except.ok.inj hreadme
    obtain rfl := Except.ok.inj hreadme'
    exact ⟨line, line', hlines, hlength.trans (by decide), (hcells.mpr (by decide)).trans (by decide)⟩

end Generate

end ModuleDocs
