import ModuleDocs.Proofs.Hcl.HiddenBraces

/-! # The shortest block

    In plain mode a block can be told by counting alone.  It begins at the
    first opening brace at or after the index, and it ends at the first place
    behind that brace where as many closing as opening braces have been read;
    when there is no such place, it goes on to the end of the text.

    The walk keeps the number of braces that are open and no counts.  What
    ties the two is said of a walk with any number of open braces: as long as
    it has not closed the block, what it has read holds at most so many more
    closing than opening braces, and the brace that closes the block is the
    first one too many. -/

namespace ModuleDocs.Hcl

open Text

/-- A text with as many closing as opening braces. -/
def IsEven (t : Text) : Prop := t.count '\x7d' = t.count '\x7b'

/-- A text with fewer closing than opening braces. -/
def IsOpen (t : Text) : Prop := t.count '\x7d' < t.count '\x7b'

instance (t : Text) : Decidable (IsEven t) := inferInstanceAs (Decidable (_ = _))

instance (t : Text) : Decidable (IsOpen t) := inferInstanceAs (Decidable (_ < _))

/-- A text with more opening braces is not even. -/
theorem IsOpen.not_isEven {t : Text} (h : IsOpen t) : ¬ IsEven t := fun heven =>
  absurd heven (Nat.ne_of_lt h)

namespace Block

/-! ## Counting along the walk -/

/-- A walk that finds no closing brace reads the whole text. -/
theorem text_close_of_not_closed {m : BraceMode} {s : Region} {inner : Nat} {t : Text}
    (h : (close m s inner t).closed = false) : (close m s inner t).text = t := by
  induction t generalizing s inner with
  | nil => rfl
  | cons c t ih =>
      rw [close_cons] at h ⊢
      split
      · next hopening =>
          rw [if_pos hopening] at h
          exact congrArg (c :: ·) (ih h)
      · next hopening =>
          rw [if_neg hopening] at h
          split
          · next hclosing =>
              rw [if_pos hclosing] at h
              cases inner with
              | zero => exact nomatch h
              | succ inner => exact congrArg (c :: ·) (ih h)
          · next hclosing =>
              rw [if_neg hclosing] at h
              exact congrArg (c :: ·) (ih h)

/-- The braces in what a plain walk reads with `inner` further braces open. -/
structure Counted (inner : Nat) (b : Block) : Prop where
  /-- Up to the end of the block no brace too many is closed. -/
  covered : ∀ p, p <+: b.text → (b.closed = true → p ≠ b.text) →
    p.count '\x7d' ≤ p.count '\x7b' + inner
  /-- The last brace of a closed block is the first one too many. -/
  even : b.closed = true → b.text.count '\x7d' = b.text.count '\x7b' + inner + 1

/-- A character in front of what is read changes the number of open braces. -/
theorem Counted.cons {c : Char} {before inner : Nat} {b : Block} (h : Counted inner b)
    (hc : [c].count '\x7d' + inner = [c].count '\x7b' + before) : Counted before (b.cons c) where
  covered := by
    intro p hp hproper
    rcases List.prefix_cons_iff.mp hp with rfl | ⟨q, rfl, hq⟩
    · exact Nat.zero_le _
    · have hcount := h.covered q hq fun hclosed heq => hproper hclosed (heq ▸ rfl)
      rw [count_cons_eq_add c '\x7d' q, count_cons_eq_add c '\x7b' q]
      omega
  even := by
    intro hclosed
    have hcount := h.even hclosed
    rw [text_cons, count_cons_eq_add c '\x7d' b.text, count_cons_eq_add c '\x7b' b.text]
    omega

/-- What a plain walk reads is counted so. -/
theorem counted_close (inner : Nat) (t : Text) : Counted inner (close .plain .code inner t) := by
  -- an opening brace adds to the open ones and a closing one takes away, so `inner` stays open
  induction t generalizing inner with
  | nil =>
      refine ⟨fun p hp _ => ?_, nofun⟩
      rw [List.prefix_nil.mp hp]
      exact Nat.zero_le _
  | cons c t ih =>
      rw [close_cons]
      split
      · next hopening =>
          obtain ⟨-, rfl⟩ := hopening
          exact (ih (inner + 1)).cons (by simp [Nat.add_comm])
      · next hopening =>
          split
          · next hclosing =>
              obtain ⟨-, rfl⟩ := hclosing
              cases inner with
              | zero =>
                  refine ⟨fun p hp hproper => ?_, fun _ => rfl⟩
                  rcases List.prefix_cons_iff.mp hp with rfl | ⟨q, rfl, hq⟩
                  · exact Nat.zero_le _
                  · exact absurd (congrArg _ (List.prefix_nil.mp hq)) (hproper rfl)
              | succ inner => exact (ih inner).cons (by simp [Nat.add_comm])
          · next hclosing =>
              have hopen : c ≠ '\x7b' := fun hc => hopening ⟨rfl, hc⟩
              have hclose : c ≠ '\x7d' := fun hc => hclosing ⟨rfl, hc⟩
              exact (ih inner).cons (by simp [hopen, hclose])

/-! ## The block of an opening brace -/

/-- The plain block of an opening brace that the given text follows. -/
def braced (t : Text) : Block := (close .plain .code 0 t).cons '\x7b'

/-- A closed block is even. -/
theorem isEven_braced {t : Text} (h : (braced t).closed = true) : IsEven (braced t).text := by
  have hcount := (counted_close 0 t).even h
  rw [IsEven, braced, text_cons, List.count_cons_of_ne (by decide), List.count_cons_self, hcount]

/-- Before its end a block has more opening braces. -/
theorem isOpen_of_prefix_braced {t p : Text} (hp : p <+: (braced t).text) (hne : p ≠ [])
    (hproper : (braced t).closed = true → p ≠ (braced t).text) : IsOpen p := by
  rcases List.prefix_cons_iff.mp hp with rfl | ⟨q, rfl, hq⟩
  · exact absurd rfl hne
  · have hcount := (counted_close 0 t).covered q hq fun hclosed heq =>
      hproper hclosed (congrArg ('\x7b' :: ·) heq)
    rw [IsOpen, List.count_cons_of_ne (by decide), List.count_cons_self]
    omega

theorem braced_isPrefix (t : Text) : (braced t).text <+: '\x7b' :: t :=
  (List.prefix_cons_inj _).mpr (close_isPrefix .plain .code 0 t)

/-- Without an opening brace there is no block. -/
theorem first_plain_of_not_mem {t : Text} (h : '\x7b' ∉ t) :
    first .plain .code t = ⟨[], false⟩ := by
  induction t with
  | nil => rfl
  | cons c t ih =>
      obtain ⟨hc, ht⟩ := List.ne_and_not_mem_of_not_mem_cons h
      rw [first, if_neg fun hopening => hc hopening.2.symm]
      exact ih ht

/-- The first opening brace opens the block. -/
theorem first_plain_append {lead : Text} (h : '\x7b' ∉ lead) (t : Text) :
    first .plain .code (lead ++ '\x7b' :: t) = braced t := by
  induction lead with
  | nil => rfl
  | cons c lead ih =>
      obtain ⟨hc, hlead⟩ := List.ne_and_not_mem_of_not_mem_cons h
      rw [List.cons_append, first, if_neg fun hopening => hc hopening.2.symm]
      exact ih hlead

/-! ## Places in the text -/

/-- The place of the first opening brace at or after an index. -/
def IsFirstOpening (text : Text) (start p : Nat) : Prop :=
  IsLeast {i | start ≤ i ∧ text[i]? = some '\x7b'} p

/-- The first place behind a brace at which the text from the brace on is even. -/
def IsFirstEven (text : Text) (p e : Nat) : Prop :=
  IsLeast {e | p < e ∧ IsEven (text.extract p e)} e

section Places

variable {text : Text} {start p : Nat} (h : IsFirstOpening text start p)
include h

theorem IsFirstOpening.drop_eq : text.drop p = '\x7b' :: text.drop (p + 1) := by
  obtain ⟨⟨-, hp⟩, -⟩ := h
  obtain ⟨hlength, hbrace⟩ := List.getElem?_eq_some_iff.mp hp
  rw [List.drop_eq_getElem_cons hlength, hbrace]

/-- Between the index and the first opening brace there is none. -/
theorem IsFirstOpening.not_mem_extract : '\x7b' ∉ text.extract start p := by
  obtain ⟨-, hleast⟩ := h
  intro hmem
  obtain ⟨i, hi⟩ := List.mem_iff_getElem?.mp hmem
  obtain ⟨hlength, -⟩ := List.getElem?_eq_some_iff.mp hi
  rw [List.extract, List.length_take] at hlength
  rw [List.extract, List.getElem?_take_of_lt (by omega), List.getElem?_drop] at hi
  have hfirst : p ≤ start + i := hleast ⟨Nat.le_add_right start i, hi⟩
  omega

/-- The block at or after the index is that of the first opening brace. -/
theorem IsFirstOpening.startingAt_eq :
    startingAt .plain text start = braced (text.drop (p + 1)) := by
  have hsplit : text.drop start = text.extract start p ++ '\x7b' :: text.drop (p + 1) := by
    have hdrop : text.drop p = (text.drop start).drop (p - start) := by
      rw [List.drop_drop, Nat.add_sub_cancel' h.1.1]
    rw [← h.drop_eq, hdrop]
    exact (List.take_append_drop (p - start) (text.drop start)).symm
  rw [startingAt, hsplit]
  exact first_plain_append h.not_mem_extract _

/-- What stands from the brace up to a place is a first part of the text at the brace, and not empty
when the place is behind the brace. -/
theorem IsFirstOpening.extract_ne_nil {k : Nat} (hk : p < k) : text.extract p k ≠ [] := by
  rw [List.extract, h.drop_eq]
  cases hlength : k - p with
  | zero => omega
  | succ n => exact List.cons_ne_nil _ _

/-- A closed block ends at the first even place. -/
theorem IsFirstOpening.isFirstEven (hclosed : (braced (text.drop (p + 1))).closed = true) :
    let e := p + (braced (text.drop (p + 1))).text.length
    IsFirstEven text p e ∧ (braced (text.drop (p + 1))).text = text.extract p e ∧
      ∀ k, p < k → k < e → IsOpen (text.extract p k) := by
  intro e
  have hprefix := braced_isPrefix (text.drop (p + 1))
  have htext : (braced (text.drop (p + 1))).text = text.extract p e := by
    rw [List.extract, h.drop_eq, Nat.add_sub_cancel_left]
    exact List.prefix_iff_eq_take.mp hprefix
  -- what stands before the end is less than the block, so a brace is still open there
  have hopen : ∀ k, p < k → k < e → IsOpen (text.extract p k) := by
    intro k hpk hke
    have hshort : text.extract p k <+: (braced (text.drop (p + 1))).text := by
      rw [htext]
      exact List.take_prefix_take_left (by omega)
    refine isOpen_of_prefix_braced hshort (h.extract_ne_nil hpk) fun _ heq => ?_
    have hlength := congrArg List.length heq
    have hbound : (text.extract p k).length ≤ k - p := List.length_take_le _ _
    omega
  refine ⟨⟨⟨?_, ?_⟩, ?_⟩, htext, hopen⟩
  · have hpos : 0 < (braced (text.drop (p + 1))).text.length := Nat.succ_pos _
    omega
  · rw [← htext]
    exact isEven_braced hclosed
  · rintro k ⟨hpk, heven⟩
    by_contra hke
    exact (hopen k hpk (Nat.lt_of_not_le hke)).not_isEven heven

/-- A block that is not closed is the rest of the text, and no place in it is even. -/
theorem IsFirstOpening.isOpen_of_not_closed
    (hclosed : (braced (text.drop (p + 1))).closed = false) :
    (braced (text.drop (p + 1))).text = text.drop p ∧ ∀ k, p < k → IsOpen (text.extract p k) := by
  have htext : (braced (text.drop (p + 1))).text = text.drop p := by
    rw [h.drop_eq]
    exact congrArg ('\x7b' :: ·) (text_close_of_not_closed hclosed)
  refine ⟨htext, fun k hpk => ?_⟩
  have hprefix : text.extract p k <+: (braced (text.drop (p + 1))).text := by
    rw [htext]
    exact List.take_prefix _ _
  exact isOpen_of_prefix_braced hprefix (h.extract_ne_nil hpk) fun htrue =>
    absurd (hclosed.symm.trans htrue) Bool.false_ne_true

end Places

/-- Plain extraction by counting, for every text and every index.  Without an opening brace at or
after the index nothing is extracted.  From the first one on, the block is the shortest part with as
many closing as opening braces: every shorter part has fewer closing ones, and nothing is logged.
When no part is even, the block is the rest of the text, with one warning. -/
theorem extract_plain (text : Text) (start : Nat) :
    ('\x7b' ∉ text.drop start → extract .plain text start = pure []) ∧
    ∀ p, IsFirstOpening text start p →
      (∀ e, IsFirstEven text p e →
        extract .plain text start = pure (text.extract p e) ∧
          ∀ k, p < k → k < e → IsOpen (text.extract p k)) ∧
      ((∀ e, p < e → ¬ IsEven (text.extract p e)) →
        extract .plain text start = .warn (text.drop p)
          ("Unbalanced braces: block starting at offset " ++ Text.ofNat start ++
            " reached end of text (" ++ Text.ofNat (text.drop p).length ++
            " chars accumulated)")) := by
  constructor
  · intro hnone
    rw [extract, startingAt, first_plain_of_not_mem hnone]
    rfl
  · intro p hp
    cases hclosed : (braced (text.drop (p + 1))).closed with
    | true =>
        obtain ⟨heven, htext, hopen⟩ := hp.isFirstEven hclosed
        refine ⟨fun e he => ?_, fun hnever => absurd heven.1.2 (hnever _ heven.1.1)⟩
        obtain rfl := he.unique heven
        refine ⟨?_, hopen⟩
        rw [extract, hp.startingAt_eq, ← htext]
        exact if_neg fun hwarn => hwarn.2 hclosed
    | false =>
        obtain ⟨htext, hopen⟩ := hp.isOpen_of_not_closed hclosed
        refine ⟨fun e he => absurd he.1.2 (hopen e he.1.1).not_isEven, fun _ => ?_⟩
        rw [extract, hp.startingAt_eq, ← htext]
        exact if_pos ⟨List.cons_ne_nil _ _, fun htrue =>
          Bool.false_ne_true (hclosed.symm.trans htrue)⟩

/-- A brace in a string closes the first block, and the last one is not closed. -/
theorem extract_plain_quoted :
    let text : Text := "\x7d \x7b a = \"\x7d\" \x7d \x7b b"
    extract .plain text 1 = pure ("\x7b a = \"\x7d" : Text) ∧
      extract .plain text 3 = .warn ("\x7b b" : Text)
        "Unbalanced braces: block starting at offset 3 reached end of text (3 chars accumulated)" ∧
      extract .plain text 15 = pure [] := by
  intro text
  have hfirst : IsFirstOpening text 1 2 := by
    refine ⟨by decide, fun i hi => ?_⟩
    by_contra hlt
    interval_cases i <;> revert hi <;> decide
  have heven : IsFirstEven text 2 10 := by
    refine ⟨by decide, fun e he => ?_⟩
    by_contra hlt
    interval_cases e <;> revert he <;> decide
  have hlast : IsFirstOpening text 3 14 := by
    refine ⟨by decide, fun i hi => ?_⟩
    by_contra hlt
    interval_cases i <;> revert hi <;> decide
  have hnever : ∀ e, 14 < e → ¬ IsEven (text.extract 14 e) := by
    intro e he
    obtain ⟨n, rfl⟩ := Nat.exists_eq_add_of_lt he
    have htail : text.extract 14 (14 + n + 1) = '\x7b' :: ([' ', 'b'] : Text).take n := by
      rw [List.extract, Nat.add_assoc, Nat.add_sub_cancel_left]
      rfl
    have hnone : '\x7d' ∉ ([' ', 'b'] : Text).take n := fun hmem =>
      absurd (List.mem_of_mem_take hmem) (by decide)
    rw [htail, IsEven, List.count_cons_of_ne (by decide), List.count_cons_self,
      List.count_eq_zero.mpr hnone]
    exact Nat.zero_ne_add_one _
  obtain ⟨-, hat⟩ := extract_plain text 1
  obtain ⟨-, hbehind⟩ := extract_plain text 3
  obtain ⟨hnone, -⟩ := extract_plain text 15
  refine ⟨((hat 2 hfirst).1 10 heven).1.trans ?_, ((hbehind 14 hlast).2 hnever).trans ?_,
    hnone (by decide)⟩
  · exact Logged.ext_of (by decide) rfl
  · exact Logged.ext_of (by decide) (by decide)

end Block

end ModuleDocs.Hcl
