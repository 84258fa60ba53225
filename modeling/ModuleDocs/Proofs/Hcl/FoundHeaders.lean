import ModuleDocs.Proofs.Hcl.Boundary

/-! # The headers that are found

    A header covers a span of the text, from the beginning of a line through
    its brace.  A name may hold newlines, so lines may begin inside a span,
    and a header may stand there too; such a header is passed over.  What is
    found are the headers of a row of spans that lie apart and in order, and
    a header that stands outside of every span is one of those.

    The walk goes along the text, so the row is spoken of from a place on: it
    is extended at its front when a header begins at the place, and stays as
    it is when none does. -/

namespace ModuleDocs.Hcl.Header

open Text

variable {keyword text : Text} {h other : Header} {start place : Nat}
  {spans : List (Nat × Header)}

/-! ## Where a header stands -/

/-- The grammar of headers matches the text from the beginning of a line through the brace. -/
structure StandsAt (h : Header) (text keyword : Text) (start : Nat) : Prop where
  line : beginsLine text start = true
  brace : text[h.brace]? = some '\x7b'
  front : IsFront keyword h.name ((text.take h.brace).drop start)

theorem IsFront.ne_nil {name front : Text} (hfront : IsFront keyword name front) : front ≠ [] := by
  obtain ⟨indent, gap, space, rfl, -⟩ := hfront.parts
  simp

/-- What is read as a header is a front, a brace behind it, and the rest of the text. -/
theorem BeginsAt.exists_front (hk : IsKeyword keyword) (hbegins : h.BeginsAt text keyword start) :
    ∃ front after, text.drop start = front ++ '\x7b' :: after ∧ IsFront keyword h.name front ∧
      h.brace = start + front.length ∧ h.brace < text.length := by
  obtain ⟨front, after, hsplit, hbrace, hfront⟩ := (at?_eq_some_iff hk).mp hbegins.2
  have hlength := congrArg List.length hsplit
  have hpositive := congrArg List.length hbrace
  have hnonempty := List.length_pos_iff.mpr hfront.ne_nil
  simp only [List.length_drop, List.length_append, List.length_cons] at hlength hpositive
  exact ⟨front, after, hbrace ▸ hsplit, hfront, by omega, by omega⟩

/-- A header stands where it is read. -/
theorem standsAt_iff_beginsAt (hk : IsKeyword keyword) :
    h.StandsAt text keyword start ↔ h.BeginsAt text keyword start := by
  constructor
  · rintro ⟨hline, hbrace, hfront⟩
    refine ⟨hline, (at?_eq_some_iff hk).mpr ⟨_, text.drop (h.brace + 1), ?_, ?_, hfront⟩⟩
    · -- a front that is not empty lies before the brace
      have hle : start ≤ h.brace := by
        by_contra hlt
        refine hfront.ne_nil (List.drop_eq_nil_of_le ?_)
        exact (List.length_take_le _ _).trans (by omega)
      rw [List.drop_take]
      conv_lhs => rw [← List.take_append_drop (h.brace - start) (text.drop start)]
      rw [List.drop_drop, Nat.add_sub_cancel' hle]
    · obtain ⟨hlt, hget⟩ := List.getElem?_eq_some_iff.mp hbrace
      rw [List.drop_eq_getElem_cons hlt, hget]
  · intro hbegins
    obtain ⟨front, after, hsplit, hfront, hbrace, -⟩ := hbegins.exists_front hk
    refine ⟨hbegins.1, ?_, ?_⟩
    · rw [hbrace, ← List.getElem?_drop, hsplit, List.getElem?_append_right le_rfl, Nat.sub_self]
      rfl
    · rw [List.drop_take, hsplit, hbrace, Nat.add_sub_cancel_left, List.take_left]
      exact hfront

/-- At one place one header begins. -/
theorem BeginsAt.unique (hk : IsKeyword keyword) (hbegins : h.BeginsAt text keyword start)
    (hother : other.BeginsAt text keyword start) : h = other := by
  have hread := Option.some.inj (hbegins.2.symm.trans hother.2)
  obtain ⟨-, -, -, -, -, hlt⟩ := hbegins.exists_front hk
  obtain ⟨-, -, -, -, -, hlt'⟩ := hother.exists_front hk
  have hrest := congrArg List.length (Prod.mk.inj hread).2
  simp only [List.length_drop] at hrest
  have hbrace : h.brace = other.brace := by omega
  cases h
  cases other
  obtain rfl := (Prod.mk.inj hread).1
  obtain rfl := hbrace
  rfl

/-! ## Rows of spans -/

/-- A row of spans, each of a header that begins at its first place.  From a place on they lie apart
and in order, and outside of them no header begins. -/
structure Row (text keyword : Text) (place : Nat) (spans : List (Nat × Header)) : Prop where
  begins : ∀ span ∈ spans, span.2.BeginsAt text keyword span.1
  above : ∀ span ∈ spans, place ≤ span.1
  apart : spans.Pairwise fun span later => span.2.brace < later.1
  complete : ∀ (start : Nat) (h : Header), place ≤ start → h.BeginsAt text keyword start →
    (start, h) ∈ spans ∨ ∃ span ∈ spans, span.1 < start ∧ start ≤ span.2.brace

/-- Where no header begins any more the row is empty. -/
theorem Row.nil
    (hnone : ∀ (start : Nat) (h : Header), place ≤ start → ¬ h.BeginsAt text keyword start) :
    Row text keyword place [] where
  begins := List.forall_mem_nil _
  above := List.forall_mem_nil _
  apart := .nil
  complete start h hle hbegins := absurd hbegins (hnone start h hle)

/-- A place at which no header begins can be passed. -/
theorem Row.pass (hrow : Row text keyword (place + 1) spans)
    (hnone : ∀ h : Header, ¬ h.BeginsAt text keyword place) : Row text keyword place spans where
  begins := hrow.begins
  above span hspan := Nat.le_of_succ_le (hrow.above span hspan)
  apart := hrow.apart
  complete start h hle hbegins := by
    rcases Nat.eq_or_lt_of_le hle with rfl | hlt
    · exact absurd hbegins (hnone h)
    · exact hrow.complete start h hlt hbegins

/-- A header that begins at the place of a row that goes on behind its brace is put in front. -/
theorem Row.cons (hk : IsKeyword keyword) (hbegins : h.BeginsAt text keyword place)
    (hrow : Row text keyword (h.brace + 1) spans) :
    Row text keyword place ((place, h) :: spans) where
  begins := List.forall_mem_cons.mpr ⟨hbegins, hrow.begins⟩
  above := by
    obtain ⟨front, -, -, -, hbrace, -⟩ := hbegins.exists_front hk
    refine List.forall_mem_cons.mpr ⟨le_rfl, fun span hspan => ?_⟩
    have hlater := hrow.above span hspan
    omega
  apart := List.pairwise_cons.mpr ⟨hrow.above, hrow.apart⟩
  complete start other hle hother := by
    rcases Nat.eq_or_lt_of_le hle with rfl | hlt
    · exact .inl (hother.unique hk hbegins ▸ List.mem_cons_self)
    · by_cases hinside : start ≤ h.brace
      · exact .inr ⟨(place, h), List.mem_cons_self, hlt, hinside⟩
      · rcases hrow.complete start other (by omega) hother with hmem | ⟨span, hspan, hcovers⟩
        · exact .inl (List.mem_cons_of_mem _ hmem)
        · exact .inr ⟨span, List.mem_cons_of_mem _ hspan, hcovers⟩

/-! ## The walk -/

/-- Where the walk reads nothing no header begins. -/
theorem not_beginsAt_of_read {index : Nat} {t : Text} (hdrop : text.drop index = t)
    (hread : (if beginsLine text index then at? keyword t else none) = none) (h : Header) :
    ¬ h.BeginsAt text keyword index := by
  intro hbegins
  rw [if_pos hbegins.1, ← hdrop, hbegins.2] at hread
  exact Option.some_ne_none _ hread

/-- What the walk reads begins there. -/
theorem beginsAt_of_read (hk : IsKeyword keyword) {index : Nat} {t name rest : Text}
    (hdrop : text.drop index = t)
    (hread : (if beginsLine text index then at? keyword t else none) = some (name, rest)) :
    (⟨name, index + (t.length - rest.length)⟩ : Header).BeginsAt text keyword index := by
  obtain ⟨hline, hat⟩ := Option.ite_none_right_eq_some.mp hread
  exact beginsAt_of_at? hk hdrop hline hat

/-- The walk finds the headers of a row of spans from its place on, once it has passed what belongs
to the header found last. -/
theorem exists_row_findFrom (hk : IsKeyword keyword) (text : Text) :
    ∀ (t : Text) (index skip : Nat), text.drop index = t →
      ∃ spans, spans.map (·.2) = findFrom keyword index (beginsLine text index) skip t ∧
        Row text keyword (index + skip) spans := by
  intro t
  -- the place moves along the text; the text in which headers begin stays the whole one
  induction t with
  | nil =>
      intro index skip hdrop
      refine ⟨[], rfl, Row.nil fun start h hle hbegins => ?_⟩
      obtain ⟨front, -, -, -, hbrace, hlt⟩ := hbegins.exists_front hk
      have hlength := List.drop_eq_nil_iff.mp hdrop
      omega
  | cons c t ih =>
      intro index skip hdrop
      have hwalk : ∀ skip, ∃ spans : List (Nat × Header),
          spans.map (·.2) = findFrom keyword (index + 1) (c = '\n') skip t ∧
            Row text keyword (index + 1 + skip) spans := fun skip =>
        beginsLine_succ hdrop ▸ ih (index + 1) skip (drop_succ hdrop)
      cases skip with
      | succ skip =>
          obtain ⟨spans, hfound, hrow⟩ := hwalk skip
          exact ⟨spans, hfound, by rwa [Nat.add_right_comm, Nat.add_assoc] at hrow⟩
      | zero =>
          cases hread : if beginsLine text index then at? keyword (c :: t) else none with
          | none =>
              obtain ⟨spans, hfound, hrow⟩ := hwalk 0
              refine ⟨spans, ?_, hrow.pass (not_beginsAt_of_read hdrop hread)⟩
              rw [findFrom, hread]
              exact hfound
          | some found =>
              obtain ⟨name, rest⟩ := found
              obtain ⟨spans, hfound, hrow⟩ := hwalk ((c :: t).length - rest.length)
              refine ⟨(index, ⟨name, index + ((c :: t).length - rest.length)⟩) :: spans, ?_,
                Row.cons hk (beginsAt_of_read hk hdrop hread) ?_⟩
              · rw [findFrom, hread, List.map_cons, hfound]
              · rwa [Nat.add_right_comm] at hrow

/-- For the keywords of variables and outputs the headers that are found are those of a row of
spans: each stands, by the grammar, from the beginning of a line through its brace; the spans lie
apart and in order; and a header that stands anywhere in the text is found, unless it begins inside
the span of an earlier one that is. -/
theorem find_reports_grammar (hkeyword : keyword = "variable" ∨ keyword = "output") (text : Text) :
    ∃ spans : List (Nat × Header), spans.map (·.2) = find text keyword ∧
      (∀ span ∈ spans, span.2.StandsAt text keyword span.1) ∧
      (spans.Pairwise fun span later => span.2.brace < later.1) ∧
      ∀ (start : Nat) (h : Header), h.StandsAt text keyword start →
        (start, h) ∈ spans ∨ ∃ span ∈ spans, span.1 < start ∧ start ≤ span.2.brace := by
  have hk := isKeyword_of_eq hkeyword
  obtain ⟨spans, hfound, hrow⟩ := exists_row_findFrom hk text text 0 0 rfl
  refine ⟨spans, hfound, fun span hspan => ?_, hrow.apart, fun start h hstands => ?_⟩
  · exact (standsAt_iff_beginsAt hk).mpr (hrow.begins span hspan)
  · exact hrow.complete start h (Nat.zero_le _) ((standsAt_iff_beginsAt hk).mp hstands)

/-- A header that stands in the name of another one is passed over, and the next one is found. -/
theorem find_reports_grammar_overlapping :
    let text : Text := "variable \"a\nvariable \"\x7b\n\" \x7b\x7d\nvariable \"b\" \x7b"
    let inner : Header := ⟨"\x7b\n", 26⟩
    find text "variable" = [⟨"a\nvariable ", 22⟩, ⟨"b", 42⟩] ∧
      inner.StandsAt text "variable" 12 ∧ ∃ span : Nat × Header, span.2 ∈ find text "variable" ∧
        span.2.StandsAt text "variable" span.1 ∧ span.1 < 12 ∧ 12 ≤ span.2.brace := by
  intro text inner
  have hfind : find text "variable" = [⟨"a\nvariable ", 22⟩, ⟨"b", 42⟩] := by decide
  have hinner : inner.StandsAt text "variable" 12 :=
    (standsAt_iff_beginsAt (isKeyword_of_eq (.inl rfl))).mpr (by decide)
  obtain ⟨spans, hfound, hstands, -, hcomplete⟩ := find_reports_grammar (.inl rfl) text
  refine ⟨hfind, hinner, ?_⟩
  rcases hcomplete 12 inner hinner with hmem | ⟨span, hspan, hcovers⟩
  · have hnot : inner ∉ find text "variable" := by decide
    exact absurd (hfound ▸ List.mem_map_of_mem hmem) hnot
  · exact ⟨span, hfound ▸ List.mem_map_of_mem hspan, hstands span hspan, hcovers⟩

end ModuleDocs.Hcl.Header
