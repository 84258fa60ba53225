import ModuleDocs.Proofs.Hcl.NestedBlocks

/-! # Closed and truncated blocks

    A block is closed when its closing brace stands in the text, and else it
    is truncated: it goes on to the end of the text.  Both kinds keep to
    themselves.  The text of a block, taken out of the text around it and
    read again, is the same block, and it is closed again or truncated again.

    The walk begins its second run in code, at the opening brace, just as it
    came to that brace in its first run; and from there on it looks at most
    one character ahead, which is the same character unless the block has
    ended.  A closed block is told without the walk: behind its opening brace
    stands a balanced body and the closing brace.

    So a scan, which looks at the text of a block to tell whether it is
    truncated, comes to the same answer as the extraction that gave it. -/

namespace ModuleDocs.Hcl

open Text

namespace Block

/-! ## Where a block ends -/

variable (m : BraceMode) (text : Text) (start : Nat)

theorem drop_index_span : text.drop (span m text start).index
    = (text.drop start).drop (lead m .code (text.drop start)) := by
  rw [span, List.drop_drop]

/-- A block is closed exactly when a balanced body and a closing brace stand behind its opening
brace, and then it is the body between the two braces. -/
theorem closed_startingAt_iff :
    (startingAt m text start).closed = true ↔
      ∃ body rest, Balanced m body ∧
        text.drop (span m text start).index = '\x7b' :: body ++ '\x7d' :: rest ∧
        (startingAt m text start).text = '\x7b' :: body ++ ['\x7d'] := by
  rw [drop_index_span, startingAt]
  rcases first_cases m .code (text.drop start) with ⟨hdrop, hblock⟩ | ⟨u, hdrop, hblock⟩
  · rw [hdrop, hblock]
    constructor
    · intro hclosed
      exact absurd hclosed Bool.false_ne_true
    · rintro ⟨body, rest, -, hsplit, -⟩
      exact absurd hsplit.symm (List.cons_ne_nil _ _)
  · rw [hdrop, hblock, closed_cons, text_cons]
    constructor
    · intro hclosed
      obtain ⟨body, rest, rfl, hbody⟩ := exists_closes_of_closed hclosed
      refine ⟨body, rest, closes_iff_balanced.mp hbody, rfl, ?_⟩
      rw [close_append_closing hbody]
      rfl
    · rintro ⟨body, rest, hbody, hsplit, -⟩
      obtain rfl : u = body ++ '\x7d' :: rest := (List.cons.inj hsplit).2
      rw [close_append_closing (closes_iff_balanced.mpr hbody)]

/-- A block that is not closed goes on to the end of the text. -/
theorem text_startingAt_of_not_closed {m : BraceMode} {text : Text} {start : Nat}
    (h : (startingAt m text start).closed = false) :
    (startingAt m text start).text = text.drop (span m text start).index := by
  rw [startingAt] at h
  rw [drop_index_span, startingAt]
  rcases first_cases m .code (text.drop start) with ⟨hdrop, hblock⟩ | ⟨u, hdrop, hblock⟩
  · rw [hdrop, hblock]
  · rw [hblock, closed_cons] at h
    rw [hdrop, hblock, text_cons, text_close_of_not_closed h]

/-! ## Warnings -/

theorem startingAt_ne_nil {m : BraceMode} {text : Text} {p : Nat} (h : text[p]? = some '\x7b') :
    (startingAt m text p).text ≠ [] := by
  obtain ⟨hlength, hbrace⟩ := List.getElem?_eq_some_iff.mp h
  rw [startingAt, List.drop_eq_getElem_cons hlength, hbrace, first, if_pos ⟨rfl, rfl⟩]
  exact List.cons_ne_nil _ _

/-- At an opening brace a warning is logged unless the block is closed. -/
theorem log_extract_of_brace {m : BraceMode} {text : Text} {p : Nat} (h : text[p]? = some '\x7b') :
    (extract m text p).log
      = if (startingAt m text p).closed then []
        else [unbalanced p (startingAt m text p).text.length] := by
  cases hclosed : (startingAt m text p).closed with
  | true => exact log_extract_of_closed hclosed
  | false =>
      rw [log_extract, if_pos ⟨startingAt_ne_nil h, by simp [hclosed]⟩]
      rfl

end Block

/-- The warning that the block of a declaration is not balanced. -/
def truncated (keyword name : Text) : Entry :=
  ⟨.warning, keyword ++ " '" ++ name ++ "' is truncated; fields may be incomplete"⟩

/-- The two warnings have different ends. -/
theorem truncated_ne_unbalanced (keyword name : Text) (start length : Nat) :
    truncated keyword name ≠ Block.unbalanced start length := by
  intro h
  have htruncated : (truncated keyword name).text.getLast? = some 'e' := by
    have hend : ("' is truncated; fields may be incomplete" : Text).getLast? = some 'e' := by decide
    rw [truncated, List.getLast?_append, hend, Option.some_or]
  have hunbalanced : (Block.unbalanced start length).text.getLast? = some ')' := by
    have hend : (" chars accumulated)" : Text).getLast? = some ')' := by decide
    rw [Block.unbalanced, List.getLast?_append, hend, Option.some_or]
  rw [h, hunbalanced] at htruncated
  exact absurd htruncated (by decide)

/-- Reading the fields never warns of a truncated declaration. -/
theorem truncated_not_mem_log_fieldsOf (m : BraceMode) (block keyword name : Text) :
    truncated keyword name ∉ (fieldsOf m block).log := by
  rw [log_fieldsOf]
  rcases validationField_cases m block with hnone | ⟨q, -, hbrace, hsome⟩
  · rw [hnone]
    exact List.not_mem_nil
  · rw [hsome, Logged.log_bind, Logged.log_pure, List.append_nil, Block.log_extract_of_brace hbrace]
    split
    · exact List.not_mem_nil
    · exact fun hmem => truncated_ne_unbalanced _ _ _ _ (List.mem_singleton.mp hmem)

/-- Reading a declaration logs what the extraction of its block logs, a warning unless the block is
closed, and what reading the fields logs. -/
theorem log_declarationAt (m : BraceMode) (text keyword : Text) (h : Header) :
    (declarationAt m text keyword h).log
      = (Block.extract m text h.brace).log ++
        ((if (Block.startingAt m text h.brace).closed then [] else [truncated keyword h.name]) ++
          (fieldsOf m (Block.startingAt m text h.brace).text).log) := by
  rw [declarationAt, Logged.log_bind, Block.value_extract, Block.isBalanced_text_startingAt]
  cases (Block.startingAt m text h.brace).closed with
  | true => simp
  | false => simp [Logged.warn, truncated]

/-- Of a declaration that is found a scan warns exactly when the extraction of its block has
warned. -/
theorem truncated_mem_log_iff {m : BraceMode} {text keyword : Text} {h : Header}
    (hmem : h ∈ Header.find text keyword) :
    truncated keyword h.name ∈ (declarationAt m text keyword h).log ↔
      Block.unbalanced h.brace (Block.extract m text h.brace).value.length
        ∈ (Block.extract m text h.brace).log := by
  -- a validation that is not closed warns too, but with the warning of its own extraction
  have hfields := truncated_not_mem_log_fieldsOf m (Block.startingAt m text h.brace).text keyword
    h.name
  rw [log_declarationAt, Block.value_extract,
    Block.log_extract_of_brace (Header.getElem?_brace_of_mem_find hmem)]
  cases (Block.startingAt m text h.brace).closed with
  | true => simpa using hfields
  | false => simp

/-- A block that is extracted again is itself, for every text, every index and both modes.  Its text
is balanced exactly when the block was closed, that is when a balanced body and the closing brace
stand behind its opening brace; a block that was not closed is the rest of the text.  So in every
text a scan warns of a truncated declaration exactly when the extraction of its block has warned. -/
theorem extract_again (m : BraceMode) (text : Text) :
    (∀ start,
      let r := (Block.extract m text start).value
      let place := (Block.span m text start).index
      (Block.extract m r 0).value = r ∧
        (Block.isBalanced m r = true ↔ (Block.startingAt m text start).closed = true) ∧
        ((Block.startingAt m text start).closed = true ↔
          ∃ body rest, Balanced m body ∧ text.drop place = '\x7b' :: body ++ '\x7d' :: rest ∧
            r = '\x7b' :: body ++ ['\x7d']) ∧
        ((Block.startingAt m text start).closed = false → r = text.drop place)) ∧
    ∀ keyword,
      (scan m text keyword).log
        = (Header.find text keyword).flatMap (fun h => (declarationAt m text keyword h).log) ∧
      ∀ h ∈ Header.find text keyword,
        (truncated keyword h.name ∈ (declarationAt m text keyword h).log ↔
          Block.unbalanced h.brace (Block.extract m text h.brace).value.length
            ∈ (Block.extract m text h.brace).log) := by
  refine ⟨fun start => ?_, fun keyword => ⟨Logged.log_mapM _ _, fun h => truncated_mem_log_iff⟩⟩
  have hagain : Block.startingAt m (Block.extract m text start).value 0
      = Block.startingAt m text start := by
    rw [Block.value_extract, Block.startingAt_text_startingAt]
  refine ⟨?_, ?_, ?_, fun hclosed => ?_⟩
  · rw [Block.value_extract, hagain, Block.value_extract]
  · rw [Block.value_extract, Block.isBalanced_text_startingAt]
  · rw [Block.value_extract]
    exact Block.closed_startingAt_iff m text start
  · rw [Block.value_extract, Block.text_startingAt_of_not_closed hclosed]

/-- A comment hides the closing brace of the first block, so the block goes on to the end, with the
second one in it. -/
theorem extract_again_comment :
    let text : Text := "variable \"a\" \x7b # \x7d\nvariable \"b\" \x7b\x7d"
    (Block.extract .quoteAware (text.drop 13) 0).value = text.drop 13 ∧
      Block.isBalanced .quoteAware (text.drop 13) = false ∧
      truncated "variable" "a" ∈ (declarationAt .quoteAware text "variable" ⟨"a", 13⟩).log ∧
      truncated "variable" "b" ∉ (declarationAt .quoteAware text "variable" ⟨"b", 32⟩).log := by
  intro text
  obtain ⟨hextract, hscan⟩ := extract_again .quoteAware text
  obtain ⟨-, hwarns⟩ := hscan "variable"
  have hfirst : (⟨"a", 13⟩ : Header) ∈ Header.find text "variable" := by decide
  have hsecond : (⟨"b", 32⟩ : Header) ∈ Header.find text "variable" := by decide
  obtain ⟨hagain, hbalanced, -, hrest⟩ := hextract 13
  have hopen : (Block.startingAt .quoteAware text 13).closed = false := by decide
  have hplace : (Block.span .quoteAware text 13).index = 13 := by decide
  rw [hrest hopen, hplace] at hagain hbalanced
  refine ⟨hagain, Bool.eq_false_iff.mpr fun h => ?_, (hwarns _ hfirst).mpr (by decide), fun h => ?_⟩
  · exact absurd (hopen.symm.trans (hbalanced.mp h)) Bool.false_ne_true
  · exact absurd ((hwarns _ hsecond).mp h) (by decide)

end ModuleDocs.Hcl
