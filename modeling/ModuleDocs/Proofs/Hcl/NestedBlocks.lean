import ModuleDocs.Proofs.Hcl.FieldSearch
import ModuleDocs.Proofs.Hcl.ShortestBlock

/-! # Blocks in blocks

    Plain blocks nest: the block of a brace ends before a later brace, or it
    holds the whole block of that brace.  Two walks over one text are compared.
    The walk from the first brace comes to the later brace with some braces
    open, and from there on it is the walk from the later brace with more
    braces open.  Of two walks over the same text the one with fewer open
    braces closes its block first.

    The block of a validation is looked for in the block of its declaration.
    So it is closed when that one is, and there is nothing to warn of. -/

namespace ModuleDocs.Hcl

open Text

theorem BraceMode.next_congr (m : BraceMode) (s : Region) (c : Char) {t u : Text}
    (h : t.head? = u.head?) : m.next s c t = m.next s c u := by
  cases m with
  | plain => rfl
  | quoteAware => exact congrArg (s.next c) h

namespace Block

/-! ## Two walks over one text -/

/-- A walk begins with the first character of the text. -/
theorem head?_text_close (m : BraceMode) (s : Region) (inner : Nat) (t : Text) :
    (close m s inner t).text.head? = t.head? := by
  cases t with
  | nil => rfl
  | cons c t =>
      rw [close_cons]
      split
      · rfl
      · split
        · cases inner <;> rfl
        · rfl

/-- A closed walk has read its closing brace. -/
theorem text_close_ne_nil {m : BraceMode} {s : Region} {inner : Nat} {t : Text}
    (h : (close m s inner t).closed = true) : (close m s inner t).text ≠ [] := by
  intro hnone
  have hhead := head?_text_close m s inner t
  rw [hnone] at hhead
  obtain rfl : t = [] := List.head?_eq_none_iff.mp hhead.symm
  exact nomatch h

/-- Where a walk closes its block, a walk with fewer open braces closes its block earlier. -/
theorem close_of_lt {inner outer : Nat} (hlt : inner < outer) {t : Text}
    (hclosed : (close .plain .code outer t).closed = true) :
    (close .plain .code inner t).closed = true ∧
      (close .plain .code inner t).text.length < (close .plain .code outer t).text.length := by
  -- every brace changes both counts alike, so one stays below the other
  induction t generalizing inner outer with
  | nil => exact nomatch hclosed
  | cons c t ih =>
      have hstep : ∀ {inner outer : Nat}, inner < outer →
          (close .plain .code outer t).closed = true →
          ((close .plain .code inner t).cons c).closed = true ∧
            ((close .plain .code inner t).cons c).text.length
              < ((close .plain .code outer t).cons c).text.length := by
        intro inner outer hlt hclosed
        obtain ⟨hinner, hlength⟩ := ih hlt hclosed
        exact ⟨hinner, Nat.succ_lt_succ hlength⟩
      rw [close_cons .plain .code outer] at hclosed ⊢
      rw [close_cons .plain .code inner]
      by_cases hopening : Region.code = .code ∧ c = '\x7b'
      · rw [if_pos hopening] at hclosed ⊢
        rw [if_pos hopening]
        exact hstep (Nat.succ_lt_succ hlt) hclosed
      · rw [if_neg hopening] at hclosed ⊢
        rw [if_neg hopening]
        by_cases hclosing : Region.code = .code ∧ c = '\x7d'
        · rw [if_pos hclosing] at hclosed ⊢
          rw [if_pos hclosing]
          cases outer with
          | zero => exact absurd hlt (Nat.not_lt_zero inner)
          | succ outer =>
              cases inner with
              | succ inner => exact hstep (Nat.lt_of_succ_lt_succ hlt) hclosed
              | zero =>
                  have hread := List.length_pos_iff.mpr (text_close_ne_nil hclosed)
                  exact ⟨rfl, Nat.succ_lt_succ hread⟩
        · rw [if_neg hclosing] at hclosed ⊢
          rw [if_neg hclosing]
          exact hstep hlt hclosed

/-- A walk that goes on behind an opening brace is from there on a walk with more open braces. -/
theorem exists_close_eq {inner : Nat} {u t : Text}
    (h : u.length < (close .plain .code inner (u ++ '\x7b' :: t)).text.length) :
    ∃ outer, close .plain .code inner (u ++ '\x7b' :: t)
      = ⟨u ++ '\x7b' :: (close .plain .code (outer + 1) t).text,
          (close .plain .code (outer + 1) t).closed⟩ := by
  induction u generalizing inner with
  | nil => exact ⟨inner, rfl⟩
  | cons c u ih =>
      -- whatever the character does to the count, the rest of the way is that of the induction
      have hstep : ∀ {inner : Nat},
          (c :: u).length
            < ((close .plain .code inner (u ++ '\x7b' :: t)).cons c).text.length →
          ∃ outer, (close .plain .code inner (u ++ '\x7b' :: t)).cons c
            = ⟨c :: u ++ '\x7b' :: (close .plain .code (outer + 1) t).text,
                (close .plain .code (outer + 1) t).closed⟩ := by
        intro inner h
        obtain ⟨outer, houter⟩ := ih (Nat.lt_of_succ_lt_succ h)
        exact ⟨outer, by rw [houter]; rfl⟩
      rw [List.cons_append, close_cons] at h ⊢
      split at h
      · next hopening =>
          rw [if_pos hopening]
          exact hstep h
      · next hopening =>
          rw [if_neg hopening]
          split at h
          · next hclosing =>
              rw [if_pos hclosing]
              cases inner with
              | zero => exact absurd h (by simp)
              | succ inner => exact hstep h
          · next hclosing =>
              rw [if_neg hclosing]
              exact hstep h

/-- A closed block that goes on behind an opening brace holds the block of that brace, which is
closed and ends earlier. -/
theorem closed_braced_inside {u t : Text} (hclosed : (braced (u ++ '\x7b' :: t)).closed = true)
    (h : u.length + 1 < (braced (u ++ '\x7b' :: t)).text.length) :
    (braced t).closed = true ∧
      u.length + 1 + (braced t).text.length < (braced (u ++ '\x7b' :: t)).text.length := by
  obtain ⟨outer, houter⟩ := exists_close_eq (Nat.lt_of_succ_lt_succ h)
  have htext : (braced (u ++ '\x7b' :: t)).text
      = '\x7b' :: (u ++ '\x7b' :: (close .plain .code (outer + 1) t).text) := by
    rw [braced, houter]
    rfl
  have hwalk : (close .plain .code (outer + 1) t).closed = true := by
    rw [braced, houter] at hclosed
    exact hclosed
  obtain ⟨hinner, hlength⟩ := close_of_lt (Nat.lt_add_one_of_le (Nat.zero_le outer)) hwalk
  refine ⟨hinner, ?_⟩
  rw [htext, braced, text_cons]
  simp only [List.length_cons, List.length_append]
  omega

/-- The walk over what a walk has read reads the same. -/
theorem close_text_close (m : BraceMode) (s : Region) (inner : Nat) (t : Text) :
    close m s inner (close m s inner t).text = close m s inner t := by
  induction t generalizing s inner with
  | nil => rfl
  | cons c t ih =>
      -- what has been read begins as the text does, so the region behind `c` is the same
      have hstep : ∀ inner,
          let read := (close m (m.next s c t) inner t).text
          (close m (m.next s c read) inner read).cons c
            = (close m (m.next s c t) inner t).cons c := by
        intro inner read
        rw [m.next_congr s c (head?_text_close m (m.next s c t) inner t), ih]
      rw [close_cons]
      split
      · next hopening =>
          rw [text_cons, close_cons, if_pos hopening]
          exact hstep (inner + 1)
      · next hopening =>
          split
          · next hclosing =>
              cases inner with
              | zero => rw [close_cons, if_neg hopening, if_pos hclosing]
              | succ inner =>
                  rw [text_cons, close_cons, if_neg hopening, if_pos hclosing]
                  exact hstep inner
          · next hclosing =>
              rw [text_cons, close_cons, if_neg hopening, if_neg hclosing]
              exact hstep inner

/-! ## Places in the text -/

/-- The place behind the plain block of a brace. -/
def stop (text : Text) (p : Nat) : Nat := p + (extract .plain text p).value.length

section Places

variable {text : Text} {p q : Nat}

theorem isFirstOpening_self (hp : text[p]? = some '\x7b') : IsFirstOpening text p p :=
  ⟨⟨Nat.le_refl p, hp⟩, fun _ hi => hi.1⟩

theorem stop_eq (hp : text[p]? = some '\x7b') :
    stop text p = p + (braced (text.drop (p + 1))).text.length := by
  rw [stop, value_extract, (isFirstOpening_self hp).startingAt_eq]

/-- What is extracted from a brace stands between the brace and the end of its block. -/
theorem value_extract_eq (hp : text[p]? = some '\x7b') :
    (extract .plain text p).value = text.extract p (stop text p) := by
  have hprefix := braced_isPrefix (text.drop (p + 1))
  rw [← (isFirstOpening_self hp).drop_eq] at hprefix
  rw [stop_eq hp, value_extract, (isFirstOpening_self hp).startingAt_eq, List.extract,
    Nat.add_sub_cancel_left]
  exact List.prefix_iff_eq_take.mp hprefix

/-- A block ends in the text. -/
theorem stop_le_length (hp : text[p]? = some '\x7b') : stop text p ≤ text.length := by
  have hlength := (braced_isPrefix (text.drop (p + 1))).length_le
  rw [← (isFirstOpening_self hp).drop_eq, List.length_drop] at hlength
  obtain ⟨hplace, -⟩ := List.getElem?_eq_some_iff.mp hp
  rw [stop_eq hp]
  omega

/-- A block that is not closed ends with the text. -/
theorem stop_of_not_closed (hp : text[p]? = some '\x7b')
    (hclosed : (startingAt .plain text p).closed = false) : stop text p = text.length := by
  rw [(isFirstOpening_self hp).startingAt_eq] at hclosed
  obtain ⟨hall, -⟩ := (isFirstOpening_self hp).isOpen_of_not_closed hclosed
  obtain ⟨hplace, -⟩ := List.getElem?_eq_some_iff.mp hp
  rw [stop_eq hp, hall, List.length_drop]
  omega

/-- Between two braces the text goes on up to the second one. -/
theorem exists_drop_eq (hpq : p < q) (hq : text[q]? = some '\x7b') :
    ∃ between, between.length + (p + 1) = q ∧
      text.drop (p + 1) = between ++ '\x7b' :: text.drop (q + 1) := by
  obtain ⟨hplace, -⟩ := List.getElem?_eq_some_iff.mp hq
  refine ⟨(text.drop (p + 1)).take (q - (p + 1)), ?_, ?_⟩
  · rw [List.length_take_of_le (by rw [List.length_drop]; omega), Nat.sub_add_cancel hpq]
  · have hdrop : (text.drop (p + 1)).drop (q - (p + 1)) = '\x7b' :: text.drop (q + 1) := by
      rw [List.drop_drop, Nat.add_sub_cancel' hpq, (isFirstOpening_self hq).drop_eq]
    rw [← hdrop, List.take_append_drop]

/-- In a closed block the block of a later brace is closed and ends earlier. -/
theorem closed_inside (hpq : p < q) (hp : text[p]? = some '\x7b') (hq : text[q]? = some '\x7b')
    (hclosed : (startingAt .plain text p).closed = true) (hinside : q < stop text p) :
    (startingAt .plain text q).closed = true ∧ stop text q < stop text p := by
  obtain ⟨between, hlength, htext⟩ := exists_drop_eq hpq hq
  rw [stop_eq hp] at hinside ⊢
  rw [stop_eq hq, (isFirstOpening_self hq).startingAt_eq]
  rw [(isFirstOpening_self hp).startingAt_eq] at hclosed
  rw [htext] at hclosed hinside ⊢
  obtain ⟨hinner, hshorter⟩ := closed_braced_inside hclosed (by omega)
  exact ⟨hinner, by omega⟩

/-- The block of a brace ends before a later brace, or it holds the block of that brace. -/
theorem stop_le_or_stop_le (hpq : p < q) (hp : text[p]? = some '\x7b')
    (hq : text[q]? = some '\x7b') : stop text p ≤ q ∨ stop text q ≤ stop text p := by
  by_cases hinside : q < stop text p
  · right
    cases hclosed : (startingAt .plain text p).closed with
    | true => exact Nat.le_of_lt (closed_inside hpq hp hq hclosed hinside).2
    | false =>
        rw [stop_of_not_closed hp hclosed]
        exact stop_le_length hq
  · exact .inl (Nat.le_of_not_lt hinside)

end Places

/-! ## Blocks on their own -/

/-- Behind the lead of a text there is nothing, or the brace of its first block. -/
theorem first_cases (m : BraceMode) (s : Region) (t : Text) :
    (t.drop (lead m s t) = [] ∧ first m s t = ⟨[], false⟩) ∨
      ∃ u, t.drop (lead m s t) = '\x7b' :: u ∧ first m s t = (close m .code 0 u).cons '\x7b' := by
  induction t generalizing s with
  | nil => exact .inl ⟨rfl, rfl⟩
  | cons c t ih =>
      rw [lead, first]
      split
      · next hopening =>
          obtain ⟨rfl, rfl⟩ := hopening
          refine .inr ⟨t, rfl, ?_⟩
          cases m <;> rfl
      · exact ih (m.next s c t)

/-- The text of a block is read as the block. -/
theorem startingAt_text_first (m : BraceMode) (s : Region) (t : Text) :
    startingAt m (first m s t).text 0 = first m s t := by
  rcases first_cases m s t with ⟨-, hnone⟩ | ⟨u, -, hblock⟩
  · rw [hnone]
    rfl
  · have hopen : first m .code ('\x7b' :: (close m .code 0 u).text)
        = (close m .code 0 (close m .code 0 u).text).cons '\x7b' := by
      cases m <;> rfl
    rw [hblock, startingAt, List.drop_zero, text_cons, hopen, close_text_close]

/-- The text of a block at or after an index is read as that block. -/
theorem startingAt_text_startingAt (m : BraceMode) (text : Text) (start : Nat) :
    startingAt m (startingAt m text start).text 0 = startingAt m text start :=
  startingAt_text_first m .code (text.drop start)

theorem isBalanced_text_startingAt (m : BraceMode) (text : Text) (start : Nat) :
    isBalanced m (startingAt m text start).text = (startingAt m text start).closed := by
  rw [isBalanced, startingAt_text_startingAt, beq_self_eq_true, Bool.and_true]

theorem log_extract_of_closed {m : BraceMode} {text : Text} {start : Nat}
    (h : (startingAt m text start).closed = true) : (extract m text start).log = [] := by
  rw [log_extract, if_neg fun hwarn => hwarn.2 h]

/-- A balanced text is the closed block of a brace. -/
theorem exists_braced_of_isBalanced {t : Text} (h : isBalanced .plain t = true) :
    ∃ u, t = (braced u).text ∧ (braced u).closed = true := by
  rw [isBalanced, Bool.and_eq_true, beq_iff_eq] at h
  obtain ⟨hclosed, htext⟩ := h
  rw [startingAt, List.drop_zero] at hclosed htext
  rcases first_cases .plain .code t with ⟨-, hnone⟩ | ⟨u, -, hblock⟩
  · rw [hnone] at hclosed
    cases hclosed
  · rw [hblock] at hclosed htext
    exact ⟨u, htext.symm, hclosed⟩

/-- A closed walk ends with a closing brace. -/
theorem getLast?_close {m : BraceMode} {s : Region} {inner : Nat} {t : Text}
    (hclosed : (close m s inner t).closed = true) :
    (close m s inner t).text.getLast? = some '\x7d' := by
  obtain ⟨body, rest, rfl, hbody⟩ := exists_closes_of_closed hclosed
  rw [close_append_closing hbody]
  exact List.getLast?_concat

/-- A balanced text ends with a closing brace. -/
theorem getLast?_of_isBalanced {t : Text} (h : isBalanced .plain t = true) :
    t.getLast? = some '\x7d' := by
  obtain ⟨u, rfl, hclosed⟩ := exists_braced_of_isBalanced h
  rw [braced, text_cons, List.getLast?_cons, getLast?_close hclosed]
  rfl

/-- Whether a closed block stands in a text, behind its first and before its last character. -/
def Encloses (outer inner : Text) : Prop :=
  ∃ q, 0 < q ∧ stop outer q < outer.length ∧ inner = outer.extract q (stop outer q) ∧
    isBalanced .plain inner = true

/-- A balanced text encloses the block of each of its braces but the first, and extracting that
block logs nothing. -/
theorem encloses_of_isBalanced {t : Text} (h : isBalanced .plain t = true) {q : Nat} (hq : 0 < q)
    (hbrace : t[q]? = some '\x7b') :
    Encloses t (extract .plain t q).value ∧ (extract .plain t q).log = [] := by
  obtain ⟨u, rfl, hclosed⟩ := exists_braced_of_isBalanced h
  have hfirst : (braced u).text[0]? = some '\x7b' := rfl
  have hwhole : startingAt .plain (braced u).text 0 = braced u :=
    congrArg (Block.cons '\x7b') (close_text_close .plain .code 0 u)
  have hstop : stop (braced u).text 0 = (braced u).text.length := by
    rw [stop, value_extract, hwhole, Nat.zero_add]
  obtain ⟨hplace, -⟩ := List.getElem?_eq_some_iff.mp hbrace
  obtain ⟨hinner, hends⟩ := closed_inside hq hfirst hbrace
    ((congrArg closed hwhole).trans hclosed) (hstop ▸ hplace)
  refine ⟨⟨q, hq, hstop ▸ hends, value_extract_eq hbrace, ?_⟩, log_extract_of_closed hinner⟩
  rw [value_extract, isBalanced_text_startingAt, hinner]

end Block

/-! ## The validation of a declaration -/

/-- What a search at word starts finds is read somewhere in the text. -/
theorem exists_of_findAtWordStart? {α : Type} {read : Text → Option α} {inWord : Bool} {t : Text}
    {a : α} (h : findAtWordStart? read inWord t = some a) :
    ∃ before rest, t = before ++ rest ∧ read rest = some a := by
  induction t generalizing inWord with
  | nil => cases h
  | cons c t ih =>
      rw [findAtWordStart?] at h
      split at h
      · next b hb =>
          obtain rfl := Option.some.inj h
          split at hb
          · cases hb
          · exact ⟨[], c :: t, rfl, hb⟩
      · obtain ⟨before, rest, rfl, hread⟩ := ih h
        exact ⟨c :: before, rest, rfl, hread⟩

/-- The brace of a validation stands behind its word. -/
theorem exists_of_afterValidation? {t rest : Text} (h : afterValidation? t = some rest) :
    ∃ before inner, before ≠ [] ∧ rest = '\x7b' :: inner ∧ t = before ++ rest := by
  obtain ⟨r, hword, hbrace⟩ := Option.bind_eq_some_iff.mp h
  split at hbrace
  · next inner hskip =>
      obtain rfl := Option.some.inj hbrace
      refine ⟨"validation" ++ r.takeWhile isSpace, inner, nofun, rfl, ?_⟩
      rw [dropPrefix?_eq_some_iff.mp hword, List.append_assoc, ← hskip,
        takeWhile_append_trimStart]
  · exact nomatch hbrace

/-- There is no validation, or it is read in the block of a brace that is not the first
character. -/
theorem validationField_cases (m : BraceMode) (block : Text) :
    validationField m block = pure none ∨
      ∃ q, 0 < q ∧ block[q]? = some '\x7b' ∧
        validationField m block = Block.extract m block q >>= fun inner =>
          pure (some ⟨conditionField inner, literalField "error_message" inner, inner⟩) := by
  cases hfound : findAtWordStart? afterValidation? false block with
  | none => exact .inl (validationField_none m hfound)
  | some rest =>
      right
      obtain ⟨start, t, rfl, hread⟩ := exists_of_findAtWordStart? hfound
      obtain ⟨word, inner, hword, rfl, rfl⟩ := exists_of_afterValidation? hread
      rw [← List.append_assoc] at hfound ⊢
      have hplace : (start ++ word ++ '\x7b' :: inner).length - ('\x7b' :: inner).length
          = (start ++ word).length := by
        rw [List.length_append, Nat.add_sub_cancel]
      refine ⟨(start ++ word).length, ?_, ?_, ?_⟩
      · exact List.length_pos_iff.mpr (List.append_ne_nil_of_right_ne_nil start hword)
      · rw [List.getElem?_append_right (Nat.le_refl _), Nat.sub_self]
        rfl
      · rw [validationField]
        split
        · next hnone => cases hfound.symm.trans hnone
        · next rest' hfound' =>
            obtain rfl : rest' = '\x7b' :: inner := Option.some.inj (hfound'.symm.trans hfound)
            rw [hplace]

/-- In a balanced block the validation is a balanced block, and reading the fields logs nothing. -/
theorem fieldsOf_of_isBalanced {block : Text} (h : Block.isBalanced .plain block = true) :
    (∀ v, (fieldsOf .plain block).value.validation = some v → Block.Encloses block v.rawBlock) ∧
      (fieldsOf .plain block).log = [] := by
  have hvalue : (fieldsOf .plain block).value.validation = (validationField .plain block).value :=
    rfl
  rw [hvalue, log_fieldsOf]
  rcases validationField_cases .plain block with hnone | ⟨q, hq, hbrace, hsome⟩
  · rw [hnone]
    exact ⟨nofun, rfl⟩
  · obtain ⟨hencloses, hquiet⟩ := Block.encloses_of_isBalanced h hq hbrace
    rw [hsome, Logged.value_bind, Logged.log_bind, hquiet]
    refine ⟨fun v hv => ?_, rfl⟩
    rw [← Option.some.inj hv]
    exact hencloses

/-- A declaration whose block is balanced is read without a warning. -/
theorem log_declarationAt_of_isBalanced {text keyword : Text} {h : Header}
    (hbalanced : Block.isBalanced .plain (declarationAt .plain text keyword h).value.rawBlock
      = true) : (declarationAt .plain text keyword h).log = [] := by
  rw [value_declarationAt] at hbalanced
  obtain ⟨-, hfields⟩ := fieldsOf_of_isBalanced hbalanced
  have hextract : (Block.extract .plain text h.brace).log = [] :=
    Block.log_extract_of_closed ((Block.isBalanced_text_startingAt _ _ _).symm.trans hbalanced)
  rw [declarationAt, Logged.log_bind, hextract, Block.value_extract, hbalanced]
  simp [hfields]

/-- Plain blocks nest, in every text: the block of a brace ends before a later brace, or it holds
the block of that brace; and if the first block is closed, then the one in it is closed too and ends
earlier.  So in every declaration whose block is closed the validation is a closed block that ends
before the last brace, and a scan warns only of declarations whose block is not closed. -/
theorem blocks_nest (text : Text) :
    (∀ p q, p < q → text[p]? = some '\x7b' → text[q]? = some '\x7b' →
      (Block.extract .plain text p).value = text.extract p (Block.stop text p) ∧
      (Block.extract .plain text q).value = text.extract q (Block.stop text q) ∧
      (Block.stop text p ≤ q ∨ Block.stop text q ≤ Block.stop text p) ∧
      ((Block.startingAt .plain text p).closed = true → q < Block.stop text p →
        (Block.startingAt .plain text q).closed = true ∧
          Block.stop text q < Block.stop text p)) ∧
    ∀ keyword,
      (∀ d ∈ (scan .plain text keyword).value, Block.isBalanced .plain d.rawBlock = true →
        d.rawBlock.getLast? = some '\x7d' ∧
          ∀ v, d.validation = some v → Block.Encloses d.rawBlock v.rawBlock) ∧
      (scan .plain text keyword).log
        = ((Header.find text keyword).filter fun h =>
            !Block.isBalanced .plain (declarationAt .plain text keyword h).value.rawBlock).flatMap
          fun h => (declarationAt .plain text keyword h).log := by
  refine ⟨fun p q hpq hp hq => ?_, fun keyword => ⟨?_, ?_⟩⟩
  · exact ⟨Block.value_extract_eq hp, Block.value_extract_eq hq,
      Block.stop_le_or_stop_le hpq hp hq, Block.closed_inside hpq hp hq⟩
  · intro d hd hbalanced
    refine ⟨Block.getLast?_of_isBalanced hbalanced, ?_⟩
    rw [scan, Logged.value_mapM] at hd
    obtain ⟨h, -, rfl⟩ := List.mem_map.mp hd
    rw [value_declarationAt] at hbalanced ⊢
    exact (fieldsOf_of_isBalanced hbalanced).1
  · rw [scan, Logged.log_mapM]
    refine (flatMap_filter_eq (fun h _ _ => rfl) fun h _ hbalanced => ?_).symm
    exact log_declarationAt_of_isBalanced (by simpa using hbalanced)

/-- A declaration with an object in its validation, and a block that is not closed. -/
def nestedText : Text :=
  "variable \"a\" \x7b\n  validation \x7b\n    condition = \x7b \x7d\n  \x7d\n\x7d\n\x7b"

/-- The block of the validation ends before that of the declaration, and the scan warns of
nothing. -/
theorem blocks_nest_validation :
    Block.stop nestedText 28 < Block.stop nestedText 13 ∧
      ((scan .plain nestedText "variable").value.map fun d => d.validation.isSome) = [true] ∧
      (∀ d ∈ (scan .plain nestedText "variable").value, ∀ v, d.validation = some v →
        Block.Encloses d.rawBlock v.rawBlock) ∧
      (scan .plain nestedText "variable").log = [] := by
  obtain ⟨hnest, hscan⟩ := blocks_nest nestedText
  obtain ⟨hvalidations, hlog⟩ := hscan "variable"
  obtain ⟨-, -, -, hclosed⟩ := hnest 13 28 (by decide) (by decide) (by decide)
  have hbalanced : ∀ d ∈ (scan .plain nestedText "variable").value,
      Block.isBalanced .plain d.rawBlock = true := by decide +kernel
  refine ⟨(hclosed (by decide) (by decide)).2, by decide +kernel, ?_,
    hlog.trans (by decide +kernel)⟩
  exact fun d hd => (hvalidations d hd (hbalanced d hd)).2

end ModuleDocs.Hcl
