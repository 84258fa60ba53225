import Mathlib
import ModuleDocs.Text.Word

/-! # Texts made of pieces

    Writers put texts together from pieces, and readers go through the
    result character by character.  This file holds what a reader's steps do
    on such a text: skipping a class of characters stops at the first
    character outside it, a prefix is found at the start, and trimming
    removes what was put around a trimmed text. -/

namespace ModuleDocs.Text

/-- What holds of all characters of a text is decided by going through the text.  All characters
there are could be gone through instead, but they are too many. -/
instance (priority := 1100) decidableForallMem (P : Char → Prop) [DecidablePred P] (t : Text) :
    Decidable (∀ c ∈ t, P c) :=
  List.decidableBAll P t

/-- What holds of a character that may be missing is decided by looking at it. -/
instance (priority := 1100) decidableForallMem? (P : Char → Prop) [DecidablePred P]
    (o : Option Char) : Decidable (∀ c ∈ o, P c) :=
  Option.decidableForallMem o

variable {p : Char → Bool} {c : Char}

/-! ## Kinds of characters -/

theorem ne_of_class {d : Char} (hc : p c = true) (hd : p d = false) : c ≠ d := by
  rintro rfl
  rw [hc] at hd
  exact Bool.false_ne_true hd.symm

/-- An ASCII letter or digit is a word character. -/
theorem isWord_of_isAlphanum (h : c.isAlphanum = true) : isWord c = true := by
  have hsmall : c.toNat < 0x80 := by
    simp only [Char.isAlphanum, Char.isAlpha, Char.isUpper, Char.isLower, Char.isDigit,
      Bool.or_eq_true, Bool.and_eq_true, decide_eq_true_eq] at h
    have hbound : ∀ n : UInt32, c.val ≤ n → c.toNat ≤ n.toNat := fun _ => UInt32.le_iff_toNat_le.mp
    rcases h with (⟨-, h⟩ | ⟨-, h⟩) | ⟨-, h⟩
    · exact Nat.lt_of_le_of_lt (hbound 'Z'.val h) (by decide)
    · exact Nat.lt_of_le_of_lt (hbound 'z'.val h) (by decide)
    · exact Nat.lt_of_le_of_lt (hbound '9'.val h) (by decide)
  rw [isWord, if_pos hsmall, h]
  rfl

/-- White space is not part of words. -/
theorem isWord_of_isSpace (h : isSpace c = true) : isWord c = false := by
  have htable : ∀ r ∈ spaceRanges, ∀ k < r.2 - r.1 + 1,
      isWord (Char.ofNat (r.1 + k)) = false := by decide +kernel
  obtain ⟨r, hr, hin⟩ := List.any_eq_true.mp h
  have hle : r.1 ≤ c.toNat ∧ c.toNat ≤ r.2 := by simpa using hin
  have hc := htable r hr (c.toNat - r.1) (by omega)
  rwa [show r.1 + (c.toNat - r.1) = c.toNat by omega, Char.ofNat_toNat] at hc

/-- A word character is no white space. -/
theorem isSpace_of_isWord (h : isWord c = true) : isSpace c = false := by
  cases hs : isSpace c with
  | false => rfl
  | true =>
      rw [isWord_of_isSpace hs] at h
      exact nomatch h

theorem isBlank_of_isWord (h : isWord c = true) : isBlank c = false := by
  cases hb : isBlank c with
  | false => rfl
  | true => exact absurd (isSpace_of_isBlank hb) (by simp [isSpace_of_isWord h])

/-! ## Skipping and taking -/

/-- Skipping stops at the latest at a character outside the class. -/
theorem dropWhile_append_stop (hc : p c = false) (u t : Text) :
    (u ++ c :: t).dropWhile p = u.dropWhile p ++ c :: t := by
  induction u with
  | nil => simp [hc]
  | cons d u ih =>
      by_cases hd : p d = true
      · simp [hd, ih]
      · simp [hd]

theorem takeWhile_eq_left {u : Text} (hu : ∀ d ∈ u, p d = true) (hc : p c = false) (t : Text) :
    (u ++ c :: t).takeWhile p = u := by
  rw [List.takeWhile_append_of_pos hu, List.takeWhile_cons_of_neg (by simp [hc]), List.append_nil]

theorem dropWhile_eq_right {u : Text} (hu : ∀ d ∈ u, p d = true) (hc : p c = false) (t : Text) :
    (u ++ c :: t).dropWhile p = c :: t := by
  rw [List.dropWhile_append_of_pos hu, List.dropWhile_cons_of_neg (by simp [hc])]

theorem dropWhile_eq_self {t : Text} (h : ∀ d ∈ t.head?, p d = false) : t.dropWhile p = t := by
  cases t with
  | nil => rfl
  | cons d t => simp [h d rfl]

/-! ## Prefixes -/

@[simp] theorem dropPrefix?_append (start t : Text) : dropPrefix? start (start ++ t) = some t :=
  dropPrefix?_eq_some_iff.mpr rfl

theorem dropPrefix?_append_append (common start t : Text) :
    dropPrefix? (common ++ start) (common ++ t) = dropPrefix? start t := by
  induction common with
  | nil => rfl
  | cons c common ih => rw [List.cons_append, List.cons_append, dropPrefix?, if_pos rfl, ih]

/-- A prefix that does not hold a character ends before it. -/
theorem dropPrefix?_append_cons {start : Text} (hc : c ∉ start) (u t : Text) :
    dropPrefix? start (u ++ c :: t) = (dropPrefix? start u).map (· ++ c :: t) := by
  induction start generalizing u with
  | nil => rfl
  | cons d start ih =>
      have hd : d ≠ c := fun h => hc (h ▸ List.mem_cons_self)
      have hs : c ∉ start := fun h => hc (List.mem_cons_of_mem _ h)
      cases u with
      | nil => simp [dropPrefix?, hd]
      | cons e u =>
          by_cases he : d = e
          · simp [dropPrefix?, he, ih hs]
          · simp [dropPrefix?, he]

theorem dropPrefix?_eq_none_of_head {d : Char} (h : d ≠ c) (start t : Text) :
    dropPrefix? (d :: start) (c :: t) = none := by
  simp [dropPrefix?, h]

/-- What holds of every start of a text can be tested. -/
instance decidableStarts {α : Type} (l : List α) (P : List α → Prop) [DecidablePred P] :
    Decidable (∀ p, p <+: l → P p) :=
  decidable_of_iff (∀ n < l.length + 1, P (l.take n))
    (by
      constructor
      · intro h p hp
        have hn := h p.length (Nat.lt_succ_of_le hp.length_le)
        rwa [← List.prefix_iff_eq_take.mp hp] at hn
      · intro h n _
        exact h (l.take n) (List.take_prefix n l))

/-! ## Trimming -/

theorem takeWhile_append_trimStart (t : Text) : t.takeWhile isSpace ++ trimStart t = t :=
  List.takeWhile_append_dropWhile

/-- White space at the end of a text is trimmed off. -/
theorem trimEnd_append_spaces {w : Text} (hw : ∀ d ∈ w, isSpace d = true) (t : Text) :
    trimEnd (t ++ w) = trimEnd t := by
  have hr : ∀ d ∈ w.reverse, isSpace d = true := fun d hd => hw d (List.mem_reverse.mp hd)
  rw [trimEnd, trimEnd, List.reverse_append, List.dropWhile_append_of_pos hr]

theorem length_trim_le (t : Text) : (trim t).length ≤ (trimStart t).length := by
  have h := (List.dropWhile_suffix isSpace (l := (trimStart t).reverse)).length_le
  simpa [trim, trimEnd] using h

/-- A trimmed text does not begin with white space. -/
theorem head_of_trimmed {t : Text} (ht : trim t = t) : ∀ d ∈ t.head?, isSpace d = false := by
  intro d hd
  cases t with
  | nil => exact nomatch hd
  | cons e t =>
      obtain rfl : e = d := Option.some.inj hd
      cases he : isSpace e with
      | false => rfl
      | true =>
          have hlt : (trimStart (e :: t)).length ≤ t.length := by
            rw [trimStart, List.dropWhile_cons_of_pos he]
            exact (List.dropWhile_suffix isSpace).length_le
          have hle := length_trim_le (e :: t)
          rw [ht, List.length_cons] at hle
          omega

theorem trimStart_eq_self {t : Text} (h : ∀ d ∈ t.head?, isSpace d = false) : trimStart t = t :=
  dropWhile_eq_self h

theorem trimStart_spaces_append {w t : Text} (hw : ∀ d ∈ w, isSpace d = true)
    (ht : ∀ d ∈ t.head?, isSpace d = false) : trimStart (w ++ t) = t := by
  rw [trimStart, List.dropWhile_append_of_pos hw]
  exact dropWhile_eq_self ht

theorem trim_spaces_append {w : Text} (hw : ∀ d ∈ w, isSpace d = true) (t : Text) :
    trim (w ++ t) = trim t := by
  rw [trim, trimStart, List.dropWhile_append_of_pos hw, trim, trimStart]

/-- White space after a trimmed text is trimmed off. -/
theorem trim_append_spaces {t w : Text} (ht : trim t = t) (hw : ∀ d ∈ w, isSpace d = true) :
    trim (t ++ w) = t := by
  cases t with
  | nil =>
      have hskip : trimStart w = [] := by
        simpa using trimStart_spaces_append (t := []) hw (by simp)
      simp [trim, hskip, trimEnd]
  | cons d t =>
      have hstart := trimStart_eq_self (head_of_trimmed ht)
      have hmore : trimStart (d :: t ++ w) = d :: t ++ w :=
        trimStart_eq_self (by simpa using head_of_trimmed ht)
      rw [trim, hmore, trimEnd_append_spaces hw, ← hstart]
      rw [trim, hstart] at ht
      rw [hstart, ht]

theorem trim_eq_self {t : Text} (hstart : ∀ d ∈ t.head?, isSpace d = false)
    (hend : ∀ d ∈ t.getLast?, isSpace d = false) : trim t = t := by
  have hreverse : ∀ d ∈ t.reverse.head?, isSpace d = false := by
    rw [List.head?_reverse]
    exact hend
  rw [trim, trimStart_eq_self hstart, trimEnd, dropWhile_eq_self hreverse, List.reverse_reverse]

/-- A text between two that end in no white space is trimmed. -/
theorem trim_enclosed (start inner stop : Text) (hstart : start.head?.any (!isSpace ·) = true)
    (hstop : stop.getLast?.any (!isSpace ·) = true) :
    trim (start ++ inner ++ stop) = start ++ inner ++ stop := by
  obtain ⟨c, hc, hfirst⟩ := (Option.any_eq_true _ _).mp hstart
  obtain ⟨d, hd, hlast⟩ := (Option.any_eq_true _ _).mp hstop
  refine trim_eq_self ?_ ?_
  · intro e he
    rw [List.append_assoc, List.head?_append, hc] at he
    obtain rfl : c = e := Option.some.inj he
    simpa using hfirst
  · intro e he
    rw [List.getLast?_append, hd] at he
    obtain rfl : d = e := Option.some.inj he
    simpa using hlast

theorem mem_of_mem_trim {t : Text} {d : Char} (h : d ∈ trim t) : d ∈ t :=
  (List.dropWhile_suffix isSpace).subset ((List.rdropWhile_prefix isSpace (trimStart t)).subset h)

/-- What was trimmed is trimmed. -/
@[simp] theorem trim_trim (t : Text) : trim (trim t) = trim t := by
  have hend : trimEnd (trim t) = trim t := List.rdropWhile_idempotent isSpace (trimStart t)
  have hstart : trimStart (trim t) = trim t := by
    refine dropWhile_eq_self fun d hd => ?_
    -- what is left begins as what is left after the start was trimmed
    obtain ⟨rest, hrest⟩ : trim t <+: trimStart t := List.rdropWhile_prefix isSpace _
    have hhead : d ∈ (trimStart t).head? := by
      rw [← hrest, List.head?_append, Option.mem_def.mp hd]
      rfl
    have hidem : trimStart (trimStart t) = trimStart t := List.dropWhile_idempotent isSpace t
    obtain ⟨more, hmore⟩ := List.head?_eq_some_iff.mp (Option.mem_def.mp hhead)
    rw [hmore] at hidem
    simpa using List.dropWhile_eq_self_iff.mp hidem (Nat.succ_pos _)
  rw [trim, hstart, hend]

/-! ## Lists of texts -/

/-- Nothing is erased from a list without repeats. -/
theorem eraseDups_eq_self {α : Type} [BEq α] [LawfulBEq α] {l : List α} (h : l.Nodup) :
    l.eraseDups = l := by
  induction l with
  | nil => rfl
  | cons a l ih =>
      obtain ⟨ha, hl⟩ := List.nodup_cons.mp h
      have hkeep : (l.filter fun b => !b == a) = l := by
        refine List.filter_eq_self.mpr fun b hb => ?_
        have hne : b ≠ a := fun hba => ha (hba ▸ hb)
        simpa using hne
      rw [List.eraseDups_cons, hkeep, ih hl]

/-- What is left after erasing repeats has none. -/
theorem nodup_eraseDups {α : Type} [BEq α] [LawfulBEq α] (l : List α) : l.eraseDups.Nodup := by
  induction hn : l.length using Nat.strongRecOn generalizing l with
  | ind n ih =>
      subst hn
      cases l with
      | nil => exact List.nodup_nil
      | cons a l =>
          have hshorter := List.length_filter_le (fun b => !b == a) l
          rw [List.eraseDups_cons, List.nodup_cons]
          refine ⟨fun hmem => ?_, ih _ (Nat.lt_succ_of_le hshorter) _ rfl⟩
          have hne := (List.mem_filter.mp (List.mem_eraseDups.mp hmem)).2
          simp at hne

/-- Repeats may be erased before or after a choice of items. -/
theorem eraseDups_filter {α : Type} [BEq α] [LawfulBEq α] (p : α → Bool) (l : List α) :
    (l.filter p).eraseDups = l.eraseDups.filter p := by
  induction hn : l.length using Nat.strongRecOn generalizing l with
  | ind n ih =>
      subst hn
      cases l with
      | nil => rfl
      | cons a l =>
          have hshorter := Nat.lt_succ_of_le (List.length_filter_le (fun b => !b == a) l)
          have hrest := ih _ hshorter (l.filter fun b => !b == a) rfl
          have hswap : (l.filter p).filter (fun b => !b == a)
              = (l.filter fun b => !b == a).filter p := by
            rw [List.filter_filter, List.filter_filter]
            exact List.filter_congr fun b _ => Bool.and_comm _ _
          rw [List.eraseDups_cons, List.filter_cons, List.filter_cons]
          cases ha : p a with
          | true => rw [if_pos rfl, if_pos rfl, List.eraseDups_cons, hswap, hrest]
          | false =>
              -- the item itself is not chosen, so none of its repeats is
              have hnone : (l.filter p).filter (fun b => !b == a) = l.filter p := by
                refine List.filter_eq_self.mpr fun b hb => ?_
                have hne : b ≠ a := by
                  rintro rfl
                  rw [(List.mem_filter.mp hb).2] at ha
                  exact nomatch ha
                simpa using hne
              rw [if_neg Bool.false_ne_true, if_neg Bool.false_ne_true, ← hrest, ← hswap, hnone]

/-- What is left after erasing repeats stands in the order of the first occurrences. -/
theorem pairwise_idxOf_eraseDups {α : Type} [BEq α] [LawfulBEq α] (l : List α) :
    l.eraseDups.Pairwise fun a b => l.idxOf a < l.idxOf b := by
  induction l with
  | nil => exact List.Pairwise.nil
  | cons a l ih =>
      have hbehind : ∀ b ∈ l.eraseDups.filter fun b => !b == a,
          (a :: l).idxOf b = l.idxOf b + 1 := by
        intro b hb
        have hne : a ≠ b := by
          rintro rfl
          simpa using (List.mem_filter.mp hb).2
        exact List.idxOf_cons_ne l hne
      rw [List.eraseDups_cons, eraseDups_filter, List.pairwise_cons]
      constructor
      · intro b hb
        rw [List.idxOf_cons_self, hbehind b hb]
        exact Nat.succ_pos _
      · refine (ih.filter _).imp_of_mem fun hb hc hlt => ?_
        rw [hbehind _ hb, hbehind _ hc]
        exact Nat.succ_lt_succ hlt

/-- Repeats within the second of two lists may be erased first. -/
theorem eraseDups_append_eraseDups {α : Type} [BEq α] [LawfulBEq α] (l m : List α) :
    (l ++ m.eraseDups).eraseDups = (l ++ m).eraseDups := by
  have hsame : (m.eraseDups.removeAll l).eraseDups = (m.removeAll l).eraseDups := by
    rw [List.removeAll, List.removeAll, eraseDups_filter, eraseDups_filter,
      eraseDups_eq_self (nodup_eraseDups m)]
  rw [List.eraseDups_append, List.eraseDups_append, hsame]

/-- What the chosen items of a list give, when the others give nothing. -/
theorem flatMap_filter_eq {α β : Type} {l : List α} {q : α → Bool} {f g : α → List β}
    (hchosen : ∀ a ∈ l, q a = true → f a = g a) (hothers : ∀ a ∈ l, q a = false → g a = []) :
    (l.filter q).flatMap f = l.flatMap g := by
  induction l with
  | nil => rfl
  | cons a l ih =>
      have hrest := ih (fun b hb => hchosen b (List.mem_cons_of_mem a hb))
        fun b hb => hothers b (List.mem_cons_of_mem a hb)
      rw [List.flatMap_cons, List.filter_cons, ← hrest]
      cases hq : q a with
      | true =>
          rw [if_pos rfl, List.flatMap_cons, hchosen a List.mem_cons_self hq]
      | false =>
          rw [if_neg Bool.false_ne_true, hothers a List.mem_cons_self hq, List.nil_append]

theorem nodup_sort {ts : List Text} (h : ts.Nodup) : (sort ts).Nodup :=
  (perm_sort ts).nodup_iff.mpr h

/-- A character of a joined text is one of the separator or of a part. -/
theorem mem_join {separator : Text} {parts : List Text} {d : Char}
    (h : d ∈ join separator parts) : d ∈ separator ∨ ∃ part ∈ parts, d ∈ part := by
  induction parts with
  | nil => exact nomatch h
  | cons part parts ih =>
      cases parts with
      | nil =>
          have hjoin : join separator [part] = part := List.intercalate_singleton
          rw [hjoin] at h
          exact .inr ⟨part, List.mem_cons_self, h⟩
      | cons next parts =>
          rw [join, List.intercalate_cons_cons, ← join] at h
          rcases List.mem_append.mp h with h | h
          · rcases List.mem_append.mp h with h | h
            · exact .inr ⟨part, List.mem_cons_self, h⟩
            · exact .inl h
          · rcases ih h with h | ⟨part', hpart, h⟩
            · exact .inl h
            · exact .inr ⟨part', List.mem_cons_of_mem part hpart, h⟩

/-! ## Order by code point -/

/-- One text comes before another by code point: it is a proper start of the other, or it has the
smaller character at the first place where they differ. -/
abbrev Precedes : Text → Text → Prop := List.Lex fun c d : Char => c.toNat < d.toNat

/-- The order in which texts are sorted is the order by code point. -/
theorem precedes_of_le {s t : Text} (h : le s t = true) (hne : s ≠ t) : Precedes s t := by
  induction s generalizing t with
  | nil =>
      cases t with
      | nil => exact absurd rfl hne
      | cons d t => exact .nil
  | cons c s ih =>
      cases t with
      | nil => exact nomatch h
      | cons d t =>
          rcases le_cons_cons.mp h with hlt | ⟨rfl, hle⟩
          · exact .rel hlt
          · exact .cons (ih hle fun heq => hne (congrArg (c :: ·) heq))

theorem pairwise_precedes_sort {ts : List Text} (h : ts.Nodup) : (sort ts).Pairwise Precedes :=
  ((pairwise_sort ts).and (nodup_sort h)).imp fun h => precedes_of_le h.1 h.2

/-! ## Lines -/

/-- The separator does not occur inside a piece. -/
theorem not_mem_of_mem_pieces {separator : Char} {t piece : Text}
    (h : piece ∈ pieces separator t) : separator ∉ piece := by
  induction t generalizing piece with
  | nil =>
      obtain rfl : piece = [] := by simpa [pieces] using h
      exact List.not_mem_nil
  | cons c t ih =>
      rw [pieces] at h
      split at h
      · next hnil => exact absurd hnil (pieces_ne_nil separator t)
      · next first rest hsplit =>
          rw [hsplit] at ih
          split at h
          · rcases List.mem_cons.mp h with rfl | h
            · exact List.not_mem_nil
            · exact ih h
          · next hc =>
              rcases List.mem_cons.mp h with rfl | h
              · intro hmem
                rcases List.mem_cons.mp hmem with hsep | hmem
                · exact hc hsep.symm
                · exact ih List.mem_cons_self hmem
              · exact ih (List.mem_cons_of_mem first h)

/-- A text without separators is one piece. -/
theorem pieces_eq_singleton {separator : Char} {t : Text} (h : separator ∉ t) :
    pieces separator t = [t] := by
  induction t with
  | nil => rfl
  | cons c t ih =>
      have hc : c ≠ separator := fun hc => h (hc ▸ List.mem_cons_self)
      have hrest : pieces separator t = [t] := ih fun hmem => h (List.mem_cons_of_mem c hmem)
      rw [pieces, hrest]
      simp [hc]

/-- The pieces before a separator come before those behind it. -/
theorem pieces_append_cons (separator : Char) (u t : Text) :
    pieces separator (u ++ separator :: t) = pieces separator u ++ pieces separator t := by
  induction u with
  | nil =>
      rw [List.nil_append, pieces]
      cases h : pieces separator t with
      | nil => exact absurd h (pieces_ne_nil separator t)
      | cons first rest => simp [pieces, h]
  | cons c u ih =>
      rw [List.cons_append, pieces, ih, pieces]
      cases hu : pieces separator u with
      | nil => exact absurd hu (pieces_ne_nil separator u)
      | cons first rest =>
          rw [List.cons_append]
          by_cases hc : c = separator
          · simp only [if_pos hc, List.cons_append]
          · simp only [if_neg hc, List.cons_append]

theorem join_cons_cons (separator part next : Text) (rest : List Text) :
    join separator (part :: next :: rest) = part ++ separator ++ join separator (next :: rest) :=
  List.intercalate_cons_cons

/-- The last of several parts follows the others and a separator. -/
theorem join_concat (separator : Text) {parts : List Text} (hne : parts ≠ []) (last : Text) :
    join separator (parts ++ [last]) = join separator parts ++ separator ++ last := by
  induction parts with
  | nil => exact absurd rfl hne
  | cons part parts ih =>
      cases parts with
      | nil => simp [join, List.intercalate]
      | cons next parts =>
          rw [List.cons_append, List.cons_append, join_cons_cons, ← List.cons_append,
            ih (List.cons_ne_nil next parts), join_cons_cons]
          simp only [List.append_assoc]

/-- Lines joined before a last one are ended one by one. -/
theorem join_newline_concat (ls : List Text) (last : Text) :
    join ['\n'] (ls ++ [last]) = ls.flatMap (· ++ ['\n']) ++ last := by
  induction ls with
  | nil => exact List.intercalate_singleton
  | cons line ls ih =>
      have hne : ls ++ [last] ≠ [] :=
        List.append_ne_nil_of_right_ne_nil ls (List.cons_ne_nil last [])
      obtain ⟨next, more, hmore⟩ := List.exists_cons_of_ne_nil hne
      rw [List.cons_append, hmore, join_cons_cons, ← hmore, ih]
      simp

/-- Parts without separators are the pieces of the text that joins them. -/
theorem pieces_join {separator : Char} {parts : List Text} (hne : parts ≠ [])
    (h : ∀ part ∈ parts, separator ∉ part) : pieces separator (join [separator] parts) = parts := by
  induction parts with
  | nil => exact absurd rfl hne
  | cons part parts ih =>
      have hpart := pieces_eq_singleton (h part List.mem_cons_self)
      cases parts with
      | nil =>
          have hjoin : join [separator] [part] = part := List.intercalate_singleton
          rw [hjoin, hpart]
      | cons next parts =>
          have hrest := ih (List.cons_ne_nil next parts) fun p hp =>
            h p (List.mem_cons_of_mem part hp)
          rw [join_cons_cons, List.append_assoc, List.singleton_append, pieces_append_cons, hpart,
            hrest, List.singleton_append]

end ModuleDocs.Text
