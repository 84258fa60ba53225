import ModuleDocs.Hcl.Scan
import ModuleDocs.Proofs.Hcl.Balance
import ModuleDocs.Proofs.Hcl.HeaderGrammar
import ModuleDocs.Proofs.Log

/-! # Boundaries between declarations

    A text may be cut behind a newline where no header is crossed and no
    block is left open.  What is scanned then is local: the headers of the
    whole are those of the first part and, moved by its length, those of the
    second, each block is the one that the header opens in its own part, and
    a declaration depends on its name and block alone.  This asks nothing of
    the parts themselves, which may be any texts. -/

namespace ModuleDocs.Hcl

open Text

/-! ## Where headers begin -/

/-- Whether a line begins at a place of a text. -/
def beginsLine (text : Text) : Nat → Bool
  | 0 => true
  | place + 1 => text[place]? = some '\n'

namespace Header

variable {keyword text a b : Text} {h : Header}

/-- The header is read at a place of a text, which is the beginning of a line. -/
def BeginsAt (h : Header) (text keyword : Text) (start : Nat) : Prop :=
  beginsLine text start = true ∧ at? keyword (text.drop start) = some (h.name, text.drop h.brace)

instance (h : Header) (text keyword : Text) (start : Nat) :
    Decidable (h.BeginsAt text keyword start) :=
  inferInstanceAs (Decidable (_ ∧ _))

/-- The header with its place in a text that has `n` more characters in front. -/
def shift (n : Nat) (h : Header) : Header := ⟨h.name, h.brace + n⟩

theorem drop_succ {index : Nat} {c : Char} {t : Text} (hdrop : text.drop index = c :: t) :
    text.drop (index + 1) = t := by
  rw [← List.drop_drop, hdrop]
  rfl

/-- A line begins behind a newline. -/
theorem beginsLine_succ {index : Nat} {c : Char} {t : Text} (hdrop : text.drop index = c :: t) :
    beginsLine text (index + 1) = decide (c = '\n') := by
  have hc : text[index]? = some c := by
    rw [← List.head?_drop, hdrop]
    rfl
  rw [beginsLine, hc]
  exact decide_eq_decide.mpr (Option.some_inj)

/-- What is read at the beginning of a line begins there, and its brace is where the rest is. -/
theorem beginsAt_of_at? (hk : IsKeyword keyword) {index : Nat} {t name rest : Text}
    (hdrop : text.drop index = t) (hline : beginsLine text index = true)
    (h : at? keyword t = some (name, rest)) :
    (⟨name, index + (t.length - rest.length)⟩ : Header).BeginsAt text keyword index := by
  refine ⟨hline, ?_⟩
  obtain ⟨front, after, hsplit, -, -⟩ := (at?_eq_some_iff hk).mp h
  have hlength : t.length - rest.length = front.length := by
    rw [hsplit, List.length_append, Nat.add_sub_cancel]
  rw [hdrop, h, hlength, ← List.drop_drop, hdrop, hsplit, List.drop_left]

/-! ## The walk over two parts -/

/-- The walk moves its places with the index at which it begins. -/
theorem findFrom_shift (n index : Nat) (lineStart : Bool) (skip : Nat) (t : Text) :
    findFrom keyword (index + n) lineStart skip t
      = (findFrom keyword index lineStart skip t).map (shift n) := by
  induction t generalizing index lineStart skip with
  | nil => rfl
  | cons c t ih =>
      have hstep : index + n + 1 = index + 1 + n := Nat.add_right_comm index n 1
      cases skip with
      | succ skip =>
          rw [findFrom, findFrom, hstep]
          exact ih (index + 1) (c = '\n') skip
      | zero =>
          rw [findFrom, findFrom, hstep]
          split
          · next name rest _ =>
              dsimp only
              rw [List.map_cons, ih, shift, Nat.add_right_comm index n]
          · exact ih (index + 1) (c = '\n') 0

/-- The walk goes over a first part as if nothing followed, and over the rest as if nothing came
before, when no header that begins in the first part ends behind it. -/
theorem findFrom_append (hk : IsKeyword keyword)
    (huncrossed : ∀ h ∈ find (a ++ b) keyword, ∀ start < a.length,
      h.BeginsAt (a ++ b) keyword start → h.brace < a.length) :
    ∀ (u : Text) (index skip : Nat) (lineStart : Bool),
      (a ++ b).drop index = u ++ b → index + u.length = a.length → skip ≤ u.length →
      lineStart = beginsLine (a ++ b) index →
      (∀ h ∈ findFrom keyword index lineStart skip (u ++ b), h ∈ find (a ++ b) keyword) →
      findFrom keyword index lineStart skip (u ++ b)
        = findFrom keyword index lineStart skip u
          ++ findFrom keyword a.length (beginsLine (a ++ b) a.length) 0 b := by
  intro u
  -- the place moves along the first part; the text in which headers begin stays the whole one
  induction u with
  | nil =>
      intro index skip lineStart _ hindex hskip hline _
      obtain rfl : skip = 0 := Nat.le_zero.mp hskip
      obtain rfl : index = a.length := hindex
      rw [hline]
      rfl
  | cons c u ih =>
      intro index skip lineStart hdrop hindex hskip hline hfound
      rw [List.length_cons] at hindex hskip
      have hrest : (a ++ b).drop (index + 1) = u ++ b := drop_succ hdrop
      have hindex' : index + 1 + u.length = a.length := by omega
      have hline' : decide (c = '\n') = beginsLine (a ++ b) (index + 1) :=
        (beginsLine_succ hdrop).symm
      cases skip with
      | succ skip =>
          exact ih (index + 1) skip _ hrest hindex' (Nat.le_of_succ_le_succ hskip) hline' hfound
      | zero =>
          rw [List.cons_append, findFrom] at hfound
          rw [List.cons_append, findFrom, findFrom]
          cases lineStart with
          | false =>
              exact ih (index + 1) 0 _ hrest hindex' (Nat.zero_le _) hline' hfound
          | true =>
              rw [if_pos rfl] at hfound ⊢
              rw [if_pos rfl]
              -- a header that is read here ends in the first part
              have hends : ∀ name r, at? keyword (c :: u ++ b) = some (name, r) →
                  b.length < r.length := by
                intro name r hread
                rw [← List.cons_append, hread] at hfound
                have hbrace := huncrossed _ (hfound _ List.mem_cons_self) index (by omega)
                  (beginsAt_of_at? hk hdrop hline.symm hread)
                simp only [List.length_cons, List.length_append] at hbrace
                omega
              have hread := at?_append_eq_map hk hends
              cases hpart : at? keyword (c :: u) with
              | none =>
                  rw [hpart, List.cons_append] at hread
                  rw [hread] at hfound ⊢
                  exact ih (index + 1) 0 _ hrest hindex' (Nat.zero_le _) hline' hfound
              | some found =>
                  obtain ⟨name, rest⟩ := found
                  rw [hpart, List.cons_append] at hread
                  have hlength := hends name (rest ++ b) hread
                  have hsame : (c :: (u ++ b)).length - (rest ++ b).length
                      = (c :: u).length - rest.length := by
                    simp only [List.length_cons, List.length_append]
                    omega
                  have hskip' : (c :: u).length - rest.length ≤ u.length := by
                    rw [List.length_append] at hlength
                    rw [List.length_cons]
                    omega
                  rw [hread] at hfound ⊢
                  simp only [Option.map_some, hsame] at hfound ⊢
                  exact congrArg (List.cons _) (ih (index + 1) _ _ hrest hindex' hskip' hline'
                    fun h hmem => hfound h (List.mem_cons_of_mem _ hmem))

/-- The headers of a text are those of its two parts when none of them begins in the first part and
ends in the second. -/
theorem find_append (hk : IsKeyword keyword) (hnewline : a.getLast? = some '\n')
    (huncrossed : ∀ h ∈ find (a ++ b) keyword, ∀ start < a.length,
      h.BeginsAt (a ++ b) keyword start → h.brace < a.length) :
    find (a ++ b) keyword = find a keyword ++ (find b keyword).map (shift a.length) := by
  have hline : beginsLine (a ++ b) a.length = true := by
    rw [List.getLast?_eq_getElem?] at hnewline
    cases hlength : a.length with
    | zero => rfl
    | succ n =>
        rw [hlength, Nat.add_sub_cancel] at hnewline
        rw [beginsLine, List.getElem?_append_left (hlength ▸ Nat.lt_succ_self n), hnewline]
        exact decide_eq_true rfl
  have hwalk := findFrom_append hk huncrossed a 0 0 true rfl (Nat.zero_add _) (Nat.zero_le _) rfl
    fun h hmem => hmem
  have hshift : findFrom keyword (0 + a.length) true 0 b = (find b keyword).map (shift a.length) :=
    findFrom_shift a.length 0 true 0 b
  rw [hline] at hwalk
  rw [Nat.zero_add] at hshift
  exact hwalk.trans (congrArg (find a keyword ++ ·) hshift)

end Header

/-! ## Blocks that close -/

theorem BraceMode.next_append (m : BraceMode) (s : Region) (c : Char) {t : Text} (ht : t ≠ [])
    (rest : Text) : m.next s c (t ++ rest) = m.next s c t := by
  obtain ⟨d, t, rfl⟩ := List.exists_cons_of_ne_nil ht
  cases m <;> rfl

namespace Block

variable {m : BraceMode}

/-- A block that closes is the same whatever follows. -/
theorem close_append (rest : Text) :
    ∀ (t : Text) (s : Region) (inner : Nat), (close m s inner t).closed = true →
      close m s inner (t ++ rest) = close m s inner t := by
  intro t
  induction t with
  | nil => intro s inner hclosed; exact nomatch hclosed
  | cons c t ih =>
      intro s inner hclosed
      -- the block closes within `t`, so `t` is not empty and decides the next region
      have hstep : ∀ inner, (close m (m.next s c t) inner t).closed = true →
          close m (m.next s c (t ++ rest)) inner (t ++ rest) = close m (m.next s c t) inner t := by
        intro inner hclosed
        have ht : t ≠ [] := by rintro rfl; exact nomatch hclosed
        rw [m.next_append s c ht, ih _ inner hclosed]
      rw [close_cons] at hclosed
      rw [List.cons_append, close_cons, close_cons]
      by_cases hopen : s = .code ∧ c = '\x7b'
      · rw [if_pos hopen] at hclosed
        rw [if_pos hopen, if_pos hopen, hstep _ hclosed]
      · rw [if_neg hopen] at hclosed
        rw [if_neg hopen, if_neg hopen]
        by_cases hclose : s = .code ∧ c = '\x7d'
        · rw [if_pos hclose] at hclosed
          rw [if_pos hclose, if_pos hclose]
          cases inner with
          | zero => rfl
          | succ inner => exact congrArg (Block.cons c) (hstep inner hclosed)
        · rw [if_neg hclose] at hclosed
          rw [if_neg hclose, if_neg hclose, hstep inner hclosed]

/-- The first block of a text, when it closes, is the same whatever follows. -/
theorem first_append (rest : Text) :
    ∀ (t : Text) (s : Region), (first m s t).closed = true → first m s (t ++ rest) = first m s t := by
  intro t
  induction t with
  | nil => intro s hclosed; exact absurd hclosed Bool.false_ne_true
  | cons c t ih =>
      intro s hclosed
      have hnext : t ≠ [] → m.next s c (t ++ rest) = m.next s c t :=
        fun ht => m.next_append s c ht rest
      rw [first] at hclosed
      rw [List.cons_append, first, first]
      by_cases hopen : s = .code ∧ c = '\x7b'
      · rw [if_pos hopen] at hclosed
        have ht : t ≠ [] := by rintro rfl; exact absurd hclosed Bool.false_ne_true
        rw [if_pos hopen, if_pos hopen, hnext ht, close_append rest t _ 0 hclosed]
      · rw [if_neg hopen] at hclosed
        have ht : t ≠ [] := by rintro rfl; exact absurd hclosed Bool.false_ne_true
        rw [if_neg hopen, if_neg hopen, hnext ht, ih _ hclosed]

/-- A block that closes in the first part of a text is the block of that part. -/
theorem startingAt_append {a : Text} {start : Nat} (h : (startingAt m a start).closed = true)
    (b : Text) : startingAt m (a ++ b) start = startingAt m a start := by
  rw [startingAt, List.drop_append]
  exact first_append _ _ _ h

/-- A block of the second part of a text is the block of that part. -/
theorem startingAt_add (m : BraceMode) (a b : Text) (start : Nat) :
    startingAt m (a ++ b) (start + a.length) = startingAt m b start := by
  rw [startingAt, Nat.add_comm, ← List.drop_drop, List.drop_left]
  rfl

/-- With or without a warning, what is extracted is the block. -/
theorem value_extract (m : BraceMode) (text : Text) (start : Nat) :
    (extract m text start).value = (startingAt m text start).text := by
  unfold extract
  dsimp only
  split <;> rfl

/-- The warning that the text ends inside a block. -/
def unbalanced (start length : Nat) : Entry :=
  ⟨.warning, "Unbalanced braces: block starting at offset " ++ Text.ofNat start ++
    " reached end of text (" ++ Text.ofNat length ++ " chars accumulated)"⟩

/-- What is logged is a warning about a block that is not closed, if there is one. -/
theorem log_extract (m : BraceMode) (text : Text) (start : Nat) :
    (extract m text start).log
      = if (startingAt m text start).text ≠ [] ∧ ¬ (startingAt m text start).closed then
          [unbalanced start (startingAt m text start).text.length]
        else [] := by
  unfold extract
  dsimp only
  split <;> rfl

end Block

/-! ## Declarations -/

/-- A declaration is made of its keyword, its name and its block. -/
theorem value_declarationAt (m : BraceMode) (text keyword : Text) (h : Header) :
    (declarationAt m text keyword h).value =
      { (fieldsOf m (Block.startingAt m text h.brace).text).value with
        kind := keyword, name := h.name, rawBlock := (Block.startingAt m text h.brace).text } := by
  rw [← Block.value_extract]
  unfold declarationAt
  rw [Logged.value_bind]
  split <;> rfl

/-- Whether a text may be cut in two: the first part ends in a newline, no header begins in it and
ends behind it, and every block that a header opens in it closes in it. -/
structure IsBoundary (m : BraceMode) (before after : Text) : Prop where
  newline : before.getLast? = some '\n'
  uncrossed : ∀ keyword : Text, keyword = "variable" ∨ keyword = "output" →
    ∀ h ∈ Header.find (before ++ after) keyword, ∀ start < before.length,
      h.BeginsAt (before ++ after) keyword start → h.brace < before.length
  closed : ∀ keyword : Text, keyword = "variable" ∨ keyword = "output" →
    ∀ h ∈ Header.find before keyword, (Block.startingAt m before h.brace).closed = true

/-- At a boundary the declarations of the whole are those of the first part and then those of the
second. -/
theorem IsBoundary.value_scan_append {m : BraceMode} {a b keyword : Text} (h : IsBoundary m a b)
    (hkeyword : keyword = "variable" ∨ keyword = "output") :
    (scan m (a ++ b) keyword).value = (scan m a keyword).value ++ (scan m b keyword).value := by
  have hfind := Header.find_append (isKeyword_of_eq hkeyword) h.newline (h.uncrossed _ hkeyword)
  have hfirst : ∀ header ∈ Header.find a keyword,
      (declarationAt m (a ++ b) keyword header).value = (declarationAt m a keyword header).value := by
    intro header hmem
    rw [value_declarationAt, value_declarationAt,
      Block.startingAt_append (h.closed _ hkeyword header hmem)]
  have hsecond : ∀ header, (declarationAt m (a ++ b) keyword (header.shift a.length)).value
      = (declarationAt m b keyword header).value := by
    intro header
    rw [value_declarationAt, value_declarationAt]
    simp only [Header.shift, Block.startingAt_add]
  rw [scan, scan, scan, Logged.value_mapM, Logged.value_mapM, Logged.value_mapM, hfind,
    List.map_append, List.map_map, List.map_congr_left hfirst]
  exact congrArg (_ ++ ·) (List.map_congr_left fun header _ => hsecond header)

end ModuleDocs.Hcl
