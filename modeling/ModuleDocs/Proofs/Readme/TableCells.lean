import ModuleDocs.Proofs.Text.Compound
import ModuleDocs.Readme.Table

/-! # The cells of a row

    A line of a table is parted into cells by its bars.  A backslash takes
    the character behind it along, so a bar behind a backslash parts nothing.

    The description of a module goes into its row as it is.  So a row has the
    three cells that its head announces exactly when the description has no
    bar that parts; each such bar makes one cell more. -/

namespace ModuleDocs.TableRow

open Text

variable {t u : Text} {c : Char}

/-! ## Bars -/

/-- What stands between the bars that part a text. -/
def barPieces : Text → List Text
  | [] => [[]]
  | '\\' :: c :: t => (barPieces t).modifyHead ('\\' :: c :: ·)
  | c :: t => if c = '|' then [] :: barPieces t else (barPieces t).modifyHead (c :: ·)

/-- How many bars part a text. -/
def bars : Text → Nat
  | [] => 0
  | '\\' :: _ :: t => bars t
  | c :: t => (if c = '|' then 1 else 0) + bars t

/-- There is one piece more than there are bars. -/
theorem length_barPieces (t : Text) : (barPieces t).length = bars t + 1 := by
  fun_induction barPieces t with
  | case1 => rfl
  | case2 c t ih => rw [List.length_modifyHead, ih, bars]
  | case3 t hescape ih => rw [List.length_cons, ih, bars.eq_3 _ _ hescape, if_pos rfl]; omega
  | case4 c t hescape hc ih =>
      rw [List.length_modifyHead, ih, bars.eq_3 _ _ hescape, if_neg hc, Nat.zero_add]

/-- There is a piece even in an empty text. -/
theorem exists_barPieces (t : Text) : ∃ piece rest, barPieces t = piece :: rest := by
  refine List.exists_cons_of_ne_nil fun hnil => ?_
  have hlength := length_barPieces t
  rw [hnil] at hlength
  exact nomatch hlength

/-- A text that no bar parts is one piece. -/
theorem barPieces_eq_singleton (h : bars t = 0) : barPieces t = [t] := by
  fun_induction bars t with
  | case1 => rfl
  | case2 c t ih => rw [barPieces, ih h, List.modifyHead_cons]
  | case3 c t hescape ih =>
      obtain ⟨hc, ht⟩ := Nat.add_eq_zero_iff.mp h
      have hbar : c ≠ '|' := fun hbar => by simp [hbar] at hc
      rw [barPieces.eq_3 _ _ hescape, if_neg hbar, ih ht, List.modifyHead_cons]

/-- A text without bars is not parted. -/
theorem bars_eq_zero (h : '|' ∉ t) : bars t = 0 := by
  fun_induction bars t with
  | case1 => rfl
  | case2 c t ih => exact ih fun hm => h (List.mem_cons_of_mem _ (List.mem_cons_of_mem _ hm))
  | case3 c t hescape ih =>
      have hc : c ≠ '|' := fun hc => h (hc ▸ List.mem_cons_self)
      rw [if_neg hc, ih fun hm => h (List.mem_cons_of_mem c hm)]

theorem getLast?_ne_of_cons {d : Char} (h : (c :: u).getLast? ≠ some d) : u.getLast? ≠ some d := by
  intro hlast
  refine h ?_
  rw [List.getLast?_cons, hlast]
  rfl

/-- A bar parts a text where no backslash stands before it. -/
theorem barPieces_append_bar (hu : u.getLast? ≠ some '\\') (t : Text) :
    barPieces (u ++ '|' :: t) = barPieces u ++ barPieces t := by
  fun_induction barPieces u with
  | case1 => rfl
  | case2 c u ih =>
      have hlast := getLast?_ne_of_cons (getLast?_ne_of_cons hu)
      obtain ⟨piece, rest, hpieces⟩ := exists_barPieces u
      rw [List.cons_append, List.cons_append, barPieces, ih hlast, hpieces]
      rfl
  | case3 u hescape ih =>
      have hlast := getLast?_ne_of_cons hu
      rw [List.cons_append, barPieces.eq_3 _ _ (by simp), if_pos rfl, ih hlast]
      rfl
  | case4 c u hescape hc ih =>
      -- a backslash here would take the bar along, or be followed by a character that it takes
      have hlast := getLast?_ne_of_cons hu
      have hplain : c ≠ '\\' := by
        rintro rfl
        cases u with
        | nil => exact hu rfl
        | cons d u => exact hescape d u rfl rfl
      obtain ⟨piece, rest, hpieces⟩ := exists_barPieces u
      rw [List.cons_append, barPieces.eq_3 _ _ (fun _ _ hslash _ => hplain hslash), if_neg hc,
        ih hlast, hpieces]
      rfl

/-! ## Padding -/

/-- A text with a blank on each side. -/
def padded (t : Text) : Text := ' ' :: t ++ [' ']

theorem getLast?_padded (t : Text) : (padded t).getLast? = some ' ' :=
  List.getLast?_concat

/-- A blank behind a text parts nothing. -/
theorem bars_append_blank (t : Text) : bars (t ++ [' ']) = bars t := by
  fun_induction bars t with
  | case1 => rfl
  | case2 c t ih => rw [List.cons_append, List.cons_append, bars, ih]
  | case3 c t hescape ih =>
      by_cases hc : c = '\\'
      · -- a backslash at the end takes the blank along
        subst hc
        cases t with
        | nil => rfl
        | cons d t => exact absurd rfl (hescape d t rfl)
      · rw [List.cons_append, bars.eq_3 _ _ (fun _ _ hslash _ => hc hslash), ih]

/-- Padding parts nothing. -/
theorem bars_padded (t : Text) : bars (padded t) = bars t := by
  rw [padded, List.cons_append, bars.eq_3 _ _ (fun _ _ hslash _ => absurd hslash (by decide)),
    bars_append_blank]
  exact Nat.zero_add _

/-- Padding is trimmed off. -/
theorem trim_padded (ht : trim t = t) : trim (padded t) = t := by
  have hblank : ∀ d ∈ [' '], isSpace d = true := by decide
  rw [padded, List.cons_append, ← List.singleton_append, trim_spaces_append hblank,
    trim_append_spaces ht hblank]

/-! ## Rows -/

/-- The cells of a line: what stands between its first and its last bar, trimmed. -/
def cells (line : Text) : List Text := (barPieces line).tail.dropLast.map trim

/-- The cell of a row with the linked name. -/
def linked (r : TableRow) : Text := "[" ++ r.name ++ "](./" ++ r.link ++ ")"

/-- A row with bars and line ends at most in its description, and with a description on one line. -/
structure IsPlain (r : TableRow) : Prop where
  noBars : '|' ∉ r.name ∧ '|' ∉ r.link ∧ '|' ∉ r.type
  oneLine : '\n' ∉ r.name ∧ '\n' ∉ r.link ∧ '\n' ∉ r.type ∧ '\n' ∉ r.description
  trimmed : trim r.type = r.type ∧ trim r.description = r.description

variable {r : TableRow}

/-- The line of a row is its cells, padded, each between bars. -/
theorem line_eq (r : TableRow) :
    r.line = '|' :: (padded r.linked ++ '|' :: (padded r.type ++ '|' ::
      (padded r.description ++ ['|']))) := by
  unfold line linked padded
  simp

/-- The line of a plain row has no line end inside. -/
theorem IsPlain.newline_not_mem (h : r.IsPlain) : '\n' ∉ r.line := by
  obtain ⟨hname, hlink, htype, hdescription⟩ := h.oneLine
  rw [line_eq]
  simp [padded, linked, hname, hlink, htype, hdescription]

/-- The cells of a plain row are its linked name, its type, and those of its description. -/
theorem IsPlain.cells_line (h : r.IsPlain) :
    cells r.line = r.linked :: r.type :: (barPieces (padded r.description)).map trim := by
  obtain ⟨hname, hlink, htype⟩ := h.noBars
  have hnone : '|' ∉ r.linked := by simp [linked, hname, hlink]
  have htrim : trim r.linked = r.linked := by
    have hshape : r.linked = "[" ++ (r.name ++ "](./" ++ r.link) ++ ")" := by
      unfold linked
      simp only [List.append_assoc]
    rw [hshape, trim_enclosed _ _ _ (by decide) (by decide)]
  have hlast : ∀ t : Text, (padded t).getLast? ≠ some '\\' := fun t hlast => by
    rw [getLast?_padded] at hlast
    exact absurd hlast (by decide)
  have hsingle : ∀ t : Text, '|' ∉ t → barPieces (padded t) = [padded t] := fun t ht =>
    barPieces_eq_singleton ((bars_padded t).trans (bars_eq_zero ht))
  -- the four bars of the line part it, and only the description may have more of them
  have hpieces : barPieces r.line = [] :: padded r.linked :: padded r.type ::
      (barPieces (padded r.description) ++ [[]]) := by
    have hfirst := barPieces_append_bar (u := []) (by decide)
    rw [line_eq, ← List.nil_append ('|' :: _), hfirst, barPieces_append_bar (hlast _),
      barPieces_append_bar (hlast _), barPieces_append_bar (hlast _), hsingle _ hnone,
      hsingle _ htype]
    rfl
  rw [cells, hpieces, List.tail_cons, ← List.cons_append, ← List.cons_append, List.dropLast_concat,
    List.map_cons, List.map_cons, trim_padded htrim, trim_padded h.trimmed.1]

/-- A plain row has three cells, and one more for each bar that parts its description. -/
theorem IsPlain.length_cells (h : r.IsPlain) : (cells r.line).length = 3 + bars r.description := by
  rw [h.cells_line, List.length_cons, List.length_cons, List.length_map, length_barPieces,
    bars_padded]
  omega

/-- The cells of a plain row are linked name, type and description exactly when no bar parts the
description. -/
theorem IsPlain.cells_line_eq_iff (h : r.IsPlain) :
    cells r.line = [r.linked, r.type, r.description] ↔ bars r.description = 0 := by
  constructor
  · intro hcells
    have hlength := h.length_cells
    rw [hcells] at hlength
    simpa using hlength
  · intro hbars
    rw [h.cells_line, barPieces_eq_singleton ((bars_padded _).trans hbars), List.map_singleton,
      trim_padded h.trimmed.2]

/-! ## Tables -/

/-- The lines of a table of plain rows are its two head lines and one line for each row. -/
theorem lines_table {rows : List TableRow} (h : ∀ row ∈ rows, row.IsPlain) :
    lines (table rows) = head ++ rows.map line := by
  refine pieces_join (List.append_ne_nil_of_left_ne_nil (List.cons_ne_nil _ _) _) fun part hpart => ?_
  rcases List.mem_append.mp hpart with hhead | hrow
  · exact (by decide : ∀ part ∈ head, '\n' ∉ part) part hhead
  · obtain ⟨row, hmem, rfl⟩ := List.mem_map.mp hrow
    exact (h row hmem).newline_not_mem

end ModuleDocs.TableRow
