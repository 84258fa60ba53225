import ModuleDocs.Proofs.Text.Compound
import ModuleDocs.Text.Encoding

/-! # Where a piece first occurs

    A piece that holds a character nowhere but at its head does not reach
    across that character.  So its first occurrence in a text that is put
    together at such a character is the first one in the first part, or else
    the first one in the second.

    A file is read with a newline for every line end.  A piece without line
    ends occurs in what was read only where it occurs in the file. -/

namespace ModuleDocs.Text

variable {piece before after t u : Text} {c : Char}

/-! ## First occurrences -/

/-- A text has a rest after a piece exactly when it begins with it. -/
theorem isSome_dropPrefix? : (dropPrefix? piece t).isSome = true ↔ piece <+: t := by
  rw [Option.isSome_iff_exists]
  exact exists_congr fun rest => dropPrefix?_eq_some_iff.trans eq_comm

/-- Whether a piece occurs is decided at each character. -/
theorem contains_cons (c : Char) (t piece : Text) :
    contains (c :: t) piece = ((dropPrefix? piece (c :: t)).isSome || contains t piece) := by
  unfold contains
  rw [splitAt?]
  cases dropPrefix? piece (c :: t) with
  | some rest => rfl
  | none => simp

theorem splitAt?_eq_none_iff : splitAt? piece t = none ↔ contains t piece = false := by
  rw [contains, Option.isSome_eq_false_iff, Option.isNone_iff_eq_none]

/-- The first occurrence in a text with a character that the piece holds nowhere but at its head is
in the text before that character, or else in the text from there on. -/
theorem splitAt?_append_cons (hne : piece ≠ []) (hc : c ∉ piece.tail) (u t : Text) :
    splitAt? piece (u ++ c :: t)
      = match splitAt? piece u with
        | some (before, after) => some (before, after ++ c :: t)
        | none => (splitAt? piece (c :: t)).map fun (before, after) => (u ++ before, after) := by
  obtain ⟨d, start, rfl⟩ := List.exists_cons_of_ne_nil hne
  induction u with
  | nil => cases hs : splitAt? (d :: start) (c :: t) <;> simp [splitAt?, hs]
  | cons e u ih =>
      have hstep : dropPrefix? (d :: start) (e :: (u ++ c :: t))
          = (dropPrefix? (d :: start) (e :: u)).map (· ++ c :: t) := by
        by_cases hd : d = e
        · rw [dropPrefix?, dropPrefix?, if_pos hd, if_pos hd]
          exact dropPrefix?_append_cons hc u t
        · rw [dropPrefix?, dropPrefix?, if_neg hd, if_neg hd]
          rfl
      rw [List.cons_append, splitAt?, splitAt?, hstep, ih]
      cases dropPrefix? (d :: start) (e :: u) with
      | some rest => rfl
      | none =>
          cases splitAt? (d :: start) u with
          | some parts => rfl
          | none => cases splitAt? (d :: start) (c :: t) <;> rfl

/-- A piece occurs in a text with a character that it holds nowhere but at its head when it occurs
before that character or from there on. -/
theorem contains_append_cons (hne : piece ≠ []) (hc : c ∉ piece.tail) (u t : Text) :
    contains (u ++ c :: t) piece = (contains u piece || contains (c :: t) piece) := by
  unfold contains
  rw [splitAt?_append_cons hne hc]
  cases splitAt? piece u with
  | some parts => rfl
  | none => simp

/-- Before its first occurrence a piece does not occur. -/
theorem contains_of_splitAt? (hne : piece ≠ []) (h : splitAt? piece t = some (before, after)) :
    contains before piece = false := by
  induction t generalizing before with
  | nil =>
      rw [splitAt?, if_neg hne] at h
      cases h
  | cons c t ih =>
      rw [splitAt?] at h
      split at h
      · cases h
        rw [← splitAt?_eq_none_iff, splitAt?, if_neg hne]
      · next hnot =>
          obtain ⟨⟨start, rest⟩, hsplit, hparts⟩ := Option.map_eq_some_iff.mp h
          obtain ⟨rfl, rfl⟩ := Prod.mk.inj hparts
          -- a piece at the start of the shorter text would be one at the start of the longer
          have hstart : dropPrefix? piece (c :: start) = none := by
            cases hd : dropPrefix? piece (c :: start) with
            | none => rfl
            | some more =>
                have heq : c :: t = piece ++ (more ++ piece ++ rest) := by
                  rw [append_of_splitAt? hsplit, List.append_assoc, ← List.cons_append,
                    dropPrefix?_eq_some_iff.mp hd]
                  simp only [List.append_assoc]
                rw [heq, dropPrefix?_append] at hnot
                cases hnot
          rw [contains_cons, hstart, ih hsplit]
          rfl

/-- A piece occurs exactly when it stands somewhere in the text. -/
theorem contains_iff_isInfix : contains t piece = true ↔ piece <:+: t := by
  induction t with
  | nil =>
      rw [contains, splitAt?, List.infix_nil]
      by_cases hp : piece = [] <;> simp [hp]
  | cons c t ih =>
      rw [contains_cons, Bool.or_eq_true, ih, List.infix_cons_iff, isSome_dropPrefix?]

/-! ## Places -/

/-- Whether a piece stands at an index of a text, and at none before it. -/
structure IsFirstAt (piece t : Text) (i : Nat) : Prop where
  here : piece <+: t.drop i
  first : ∀ k < i, ¬ piece <+: t.drop k

/-- A piece has one first place. -/
theorem IsFirstAt.unique {i j : Nat} (hi : IsFirstAt piece t i) (hj : IsFirstAt piece t j) :
    i = j := by
  rcases Nat.lt_trichotomy i j with hlt | heq | hlt
  · exact absurd hi.here (hj.first i hlt)
  · exact heq
  · exact absurd hj.here (hi.first j hlt)

/-- Where a text does not begin with a piece, its first place is in the rest. -/
theorem isFirstAt_cons_iff {i : Nat} (h : ¬ piece <+: c :: t) :
    IsFirstAt piece (c :: t) i ↔ ∃ j, IsFirstAt piece t j ∧ j + 1 = i := by
  constructor
  · intro hi
    cases i with
    | zero => exact absurd hi.here h
    | succ j => exact ⟨j, ⟨hi.here, fun k hk => hi.first (k + 1) (Nat.succ_lt_succ hk)⟩, rfl⟩
  · rintro ⟨j, hj, rfl⟩
    refine ⟨hj.here, fun k hk => ?_⟩
    cases k with
    | zero => exact h
    | succ k => exact hj.first k (Nat.lt_of_succ_lt_succ hk)

/-- The index of a piece is its first place. -/
theorem index?_eq_some_iff (hne : piece ≠ []) {i : Nat} :
    index? piece t = some i ↔ IsFirstAt piece t i := by
  induction t generalizing i with
  | nil =>
      rw [index?, splitAt?, if_neg hne]
      constructor
      · intro h
        cases h
      · intro hi
        exact absurd (by simpa using hi.here) hne
  | cons c t ih =>
      by_cases hstart : piece <+: c :: t
      · have hindex : index? piece (c :: t) = some 0 := by
          obtain ⟨rest, hrest⟩ := hstart
          rw [index?, splitAt?, dropPrefix?_eq_some_iff.mpr hrest.symm]
          rfl
        have hzero : IsFirstAt piece (c :: t) 0 := ⟨hstart, fun k hk => absurd hk (Nat.not_lt_zero k)⟩
        rw [hindex]
        refine ⟨fun hi => Option.some.inj hi ▸ hzero, fun hi => congrArg some (hzero.unique hi)⟩
      -- a piece that does not begin here is found one place later than in the rest
      · have hindex : index? piece (c :: t) = (index? piece t).map (· + 1) := by
          have hnone : dropPrefix? piece (c :: t) = none := by
            rwa [← Option.not_isSome_iff_eq_none, isSome_dropPrefix?]
          rw [index?, splitAt?, hnone, index?, Option.map_map, Option.map_map]
          rfl
        rw [hindex, isFirstAt_cons_iff hstart, Option.map_eq_some_iff]
        simp only [ih]

/-- A piece has no index exactly when it stands nowhere. -/
theorem index?_eq_none_iff : index? piece t = none ↔ ¬ piece <:+: t := by
  rw [index?, Option.map_eq_none_iff, splitAt?_eq_none_iff, ← contains_iff_isInfix,
    Bool.not_eq_true]

/-- A text is split at the first place of a piece. -/
theorem splitAt?_eq_some_iff (hne : piece ≠ []) :
    splitAt? piece t = some (before, after) ↔
      t = before ++ piece ++ after ∧ IsFirstAt piece t before.length := by
  rw [← index?_eq_some_iff hne, index?]
  constructor
  · intro h
    exact ⟨append_of_splitAt? h, by rw [h]; rfl⟩
  · rintro ⟨htext, hindex⟩
    obtain ⟨⟨start, rest⟩, hsplit, hlength⟩ := Option.map_eq_some_iff.mp hindex
    have hparts := (append_of_splitAt? hsplit).symm.trans htext
    rw [List.append_assoc, List.append_assoc] at hparts
    obtain ⟨rfl, hrest⟩ := List.append_inj hparts hlength
    rw [hsplit, List.append_cancel_left hrest]

/-! ## Pieces on one line -/

section OneLine

variable (hne : piece ≠ []) (hline : '\n' ∉ piece)
include hne

theorem contains_nil : contains [] piece = false := by
  rw [← splitAt?_eq_none_iff, splitAt?, if_neg hne]

include hline

theorem contains_newline_cons (t : Text) : contains ('\n' :: t) piece = contains t piece := by
  obtain ⟨d, rest, rfl⟩ := List.exists_cons_of_ne_nil hne
  have hd : d ≠ '\n' := fun hd => hline (hd ▸ List.mem_cons_self)
  rw [contains_cons, dropPrefix?_eq_none_of_head hd]
  rfl

theorem contains_append_newline (u t : Text) :
    contains (u ++ '\n' :: t) piece = (contains u piece || contains t piece) := by
  rw [contains_append_cons hne fun hm => hline (List.mem_of_mem_tail hm),
    contains_newline_cons hne hline]

/-- A piece on one line is not lost when texts are put together with line ends between them. -/
theorem contains_append_newlines {separator : Text} (hsome : separator ≠ [])
    (hs : ∀ d ∈ separator, d = '\n') (u t : Text) :
    contains (u ++ separator ++ t) piece = (contains u piece || contains t piece) := by
  obtain ⟨d, separator, rfl⟩ := List.exists_cons_of_ne_nil hsome
  obtain rfl := hs d List.mem_cons_self
  have hrest : contains (separator ++ t) piece = contains t piece := by
    induction separator with
    | nil => rfl
    | cons d separator ih =>
        obtain rfl := hs d (by simp)
        rw [List.cons_append, contains_newline_cons hne hline]
        exact ih (by simp) fun d hd => hs d (by simp only [List.mem_cons] at hd ⊢; tauto)
  rw [List.append_assoc, List.cons_append, contains_append_newline hne hline, hrest]

/-- Texts without a piece on one line do not hold it when they are joined with line ends. -/
theorem contains_join {separator : Text} (hsome : separator ≠ [])
    (hs : ∀ d ∈ separator, d = '\n') {parts : List Text}
    (hparts : ∀ part ∈ parts, contains part piece = false) :
    contains (join separator parts) piece = false := by
  induction parts with
  | nil => exact contains_nil hne
  | cons part parts ih =>
      have hpart := hparts part List.mem_cons_self
      cases parts with
      | nil => rwa [join, List.intercalate_singleton]
      | cons next parts =>
          rw [join_cons_cons, contains_append_newlines hne hline hsome hs, hpart,
            ih fun p hp => hparts p (List.mem_cons_of_mem part hp)]
          rfl

end OneLine

/-! ## Tags -/

/-- Whether a piece is a tag of a document: an opening angle bracket and then neither another one
nor a line end. -/
structure IsTag (piece : Text) : Prop where
  head : piece.head? = some '<'
  tail : '<' ∉ piece.tail
  lines : '\n' ∉ piece ∧ '\r' ∉ piece

namespace IsTag

variable (h : IsTag piece)

include h

theorem ne_nil : piece ≠ [] := by
  rintro rfl
  exact nomatch h.head

theorem contains_nil : contains [] piece = false := Text.contains_nil h.ne_nil

theorem eq_cons : piece = '<' :: piece.tail := by
  obtain ⟨d, rest, rfl⟩ := List.exists_cons_of_ne_nil h.ne_nil
  obtain rfl : d = '<' := Option.some.inj h.head
  rfl

theorem contains_cons_of_ne (hc : c ≠ '<') (t : Text) :
    contains (c :: t) piece = contains t piece := by
  rw [contains_cons, h.eq_cons, dropPrefix?_eq_none_of_head (Ne.symm hc)]
  rfl

theorem contains_append_newline (u t : Text) :
    contains (u ++ '\n' :: t) piece = (contains u piece || contains t piece) :=
  Text.contains_append_newline h.ne_nil h.lines.1 u t

/-- A text without angle brackets holds no tag. -/
theorem splitAt?_append_of_not_mem (hu : '<' ∉ u) (t : Text) :
    splitAt? piece (u ++ t)
      = (splitAt? piece t).map fun (before, after) => (u ++ before, after) := by
  induction u with
  | nil => cases hs : splitAt? piece t <;> simp [hs]
  | cons c u ih =>
      have hc : '<' ≠ c := fun hc => hu (hc ▸ List.mem_cons_self)
      have hnone : dropPrefix? piece (c :: (u ++ t)) = none := by
        rw [h.eq_cons]
        exact dropPrefix?_eq_none_of_head hc _ _
      rw [List.cons_append, splitAt?, hnone, ih fun hm => hu (List.mem_cons_of_mem c hm)]
      cases splitAt? piece t <;> rfl

/-- Texts without a tag do not hold it when they are joined with line ends. -/
theorem contains_join {separator : Text} (hne : separator ≠ [])
    (hs : ∀ d ∈ separator, d = '\n') {parts : List Text}
    (hparts : ∀ part ∈ parts, contains part piece = false) :
    contains (join separator parts) piece = false :=
  Text.contains_join h.ne_nil h.lines.1 hne hs hparts

/-- A tag is found behind a text that does not hold it. -/
theorem splitAt?_append (hbefore : contains before piece = false) (after : Text) :
    splitAt? piece (before ++ piece ++ after) = some (before, after) := by
  have htext : before ++ piece ++ after = before ++ '<' :: (piece.tail ++ after) := by
    rw [List.append_assoc, ← List.cons_append, ← h.eq_cons]
  have hhead : splitAt? piece ('<' :: (piece.tail ++ after)) = some ([], after) := by
    rw [← List.cons_append, ← h.eq_cons]
    obtain ⟨d, rest, hpiece⟩ := List.exists_cons_of_ne_nil h.ne_nil
    have hprefix := dropPrefix?_append piece after
    rw [hpiece, List.cons_append] at hprefix ⊢
    rw [splitAt?, hprefix]
  rw [htext, splitAt?_append_cons h.ne_nil h.tail, splitAt?_eq_none_iff.mpr hbefore, hhead]
  simp

end IsTag

/-! ## Line ends -/

/-- What stands before a newline is read on its own. -/
theorem withNewlines_append (u t : Text) :
    withNewlines (u ++ '\n' :: t) = withNewlines (u ++ ['\n']) ++ withNewlines t := by
  fun_induction withNewlines u with
  | case1 => rfl
  | case2 u ih => exact congrArg ('\n' :: ·) ih
  | case3 c u hline ih =>
      cases u with
      | nil =>
          by_cases hc : c = '\r'
          · subst hc
            rfl
          · simp [withNewlines, hc]
      | cons d u =>
          -- the characters `c` and `d` are no line end together, whatever follows
          have hpair : ∀ v w, c = '\r' → d :: u ++ v = '\n' :: w → False :=
            fun v w hc hd => hline u hc (by rw [(List.cons.inj hd).1])
          show withNewlines (c :: (d :: u ++ '\n' :: t))
            = withNewlines (c :: (d :: u ++ ['\n'])) ++ withNewlines t
          rw [withNewlines.eq_3 _ _ (hpair _), withNewlines.eq_3 _ _ (hpair _), ih]
          rfl

/-- A text begins with a piece without line ends when what is read from it does. -/
theorem dropPrefix?_of_withNewlines {start : Text} (h : '\n' ∉ start)
    (hread : (dropPrefix? start (withNewlines t)).isSome) : (dropPrefix? start t).isSome := by
  induction start generalizing t with
  | nil => rfl
  | cons d start ih =>
      have hd : d ≠ '\n' := fun hd => h (hd ▸ List.mem_cons_self)
      fun_cases withNewlines t with
      | case1 => exact hread
      | case2 t =>
          rw [withNewlines.eq_2, dropPrefix?, if_neg hd] at hread
          cases hread
      | case3 c t hline =>
          rw [withNewlines.eq_3 c t hline, dropPrefix?] at hread
          by_cases hc : c = '\r'
          · rw [if_pos hc, if_neg hd] at hread
            cases hread
          · rw [if_neg hc] at hread
            rw [dropPrefix?]
            split at hread
            · next heq =>
                rw [if_pos heq]
                exact ih (fun hm => h (List.mem_cons_of_mem d hm)) hread
            · cases hread

/-- A tag that does not occur in a text does not occur in what is read from it. -/
theorem IsTag.contains_withNewlines (h : IsTag piece) (ht : contains t piece = false) :
    contains (withNewlines t) piece = false := by
  fun_induction withNewlines t with
  | case1 => exact ht
  | case2 t ih =>
      rw [h.contains_cons_of_ne (by decide), h.contains_cons_of_ne (by decide)] at ht
      rw [h.contains_cons_of_ne (by decide), ih ht]
  | case3 c t hline ih =>
      rw [contains_cons, Bool.or_eq_false_iff] at ht
      rw [contains_cons, ih ht.2, Bool.or_false, ← withNewlines.eq_3 c t hline]
      cases hread : (dropPrefix? piece (withNewlines (c :: t))).isSome with
      | false => rfl
      | true =>
          have hsome := dropPrefix?_of_withNewlines h.lines.1 hread
          rw [ht.1] at hsome
          exact nomatch hsome

end ModuleDocs.Text
