import ModuleDocs.Proofs.Hcl.Boundary

/-! # Hidden braces

    A text is cut into lexemes: characters of code, and strings and comments,
    each as a whole.  A brace inside a string or a comment is hidden.  When a
    space is put in the place of every hidden brace, the blocks of the text
    can be told by counting all braces: the quote-aware walk over the text and
    the plain walk over the blanked text go through the same characters, open
    and close at the same places, and warn alike.

    The walk knows the region of each character and no lexemes.  So the
    blanked text is first made along the regions, character by character;
    then it is shown that each lexeme is left in code, however it ends. -/

namespace ModuleDocs.Hcl

open Text

/-! ## Cutting a text into lexemes -/

/-- A piece of a text: a character of code, or a string or a comment as a whole. -/
inductive Lexeme where
  | code (c : Char)
  | string (t : Text)
  | comment (t : Text)
deriving DecidableEq, Repr

/-- A space in the place of a brace. -/
def blankBrace (c : Char) : Char := if isBrace c then ' ' else c

/-- What is left in the place of a hidden character is no brace. -/
theorem isBrace_blankBrace (c : Char) : isBrace (blankBrace c) = false := by
  unfold blankBrace
  split
  · decide
  · next h => exact Bool.eq_false_iff.mpr h

namespace Lexeme

/-- The text of a lexeme. -/
def text : Lexeme → Text
  | code c => [c]
  | string t => t
  | comment t => t

/-- The characters of a lexeme that do not stand in code. -/
def hidden : Lexeme → Text
  | code _ => []
  | string t => t
  | comment t => t

/-- The text of a lexeme with a space in the place of every hidden brace. -/
def blanked : Lexeme → Text
  | code c => [c]
  | string t => t.map blankBrace
  | comment t => t.map blankBrace

/-- A lexeme without hidden braces stays as it is. -/
theorem blanked_eq_text {x : Lexeme} (h : ∀ c ∈ x.hidden, isBrace c = false) :
    x.blanked = x.text := by
  have hmap : ∀ t : Text, (∀ c ∈ t, isBrace c = false) → t.map blankBrace = t := by
    intro t ht
    have hsame : ∀ c ∈ t, blankBrace c = id c := by
      intro c hc
      unfold blankBrace
      rw [if_neg (by simp [ht c hc])]
      rfl
    rw [List.map_congr_left hsame, List.map_id]
  cases x with
  | code c => rfl
  | string t => exact hmap t h
  | comment t => exact hmap t h

end Lexeme

/-- Cuts a text behind the end of a string whose opening quote stands before it.  A backslash
protects the next character, and a string that is not closed goes on to the end. -/
def splitString : Text → Text × Text
  | [] => ([], [])
  | '\\' :: c :: t => ('\\' :: c :: (splitString t).1, (splitString t).2)
  | c :: t => if c = '"' then ([c], t) else (c :: (splitString t).1, (splitString t).2)

/-- Cuts a text behind the closing mark of a comment whose opening mark stands before it.  A comment
that is not closed goes on to the end. -/
def splitComment : Text → Text × Text
  | [] => ([], [])
  | '*' :: '/' :: t => (['*', '/'], t)
  | c :: t => (c :: (splitComment t).1, (splitComment t).2)

/-- Cutting behind a string loses nothing. -/
theorem splitString_append (t : Text) : (splitString t).1 ++ (splitString t).2 = t := by
  fun_induction splitString t with
  | case1 => rfl
  | case2 c t ih => rw [List.cons_append, List.cons_append, ih]
  | case3 t => rfl
  | case4 c t _ _ ih => rw [List.cons_append, ih]

theorem splitComment_append (t : Text) : (splitComment t).1 ++ (splitComment t).2 = t := by
  fun_induction splitComment t with
  | case1 => rfl
  | case2 t => rfl
  | case3 c t _ ih => rw [List.cons_append, ih]

/-- The lexemes of a text. -/
def lexemes : Text → List Lexeme
  | [] => []
  | c :: t =>
    if c = '"' then .string (c :: (splitString t).1) :: lexemes (splitString t).2
    else if c = '#' ∨ (c = '/' ∧ t.head? = some '/') then
      .comment (c :: t.takeWhile (· != '\n')) :: lexemes (t.dropWhile (· != '\n'))
    else if c = '/' ∧ t.head? = some '*' then
      .comment (c :: '*' :: (splitComment t.tail).1) :: lexemes (splitComment t.tail).2
    else .code c :: lexemes t
termination_by t => t.length
decreasing_by
  · have := congrArg List.length (splitString_append t)
    rw [List.length_append] at this
    rw [List.length_cons]
    omega
  · have := List.length_dropWhile_le (· != '\n') t
    rw [List.length_cons]
    omega
  · have := congrArg List.length (splitComment_append t.tail)
    rw [List.length_append, List.length_tail] at this
    rw [List.length_cons]
    omega
  · exact Nat.lt_succ_self _

/-- The lexemes of a text are the text. -/
theorem flatMap_text_lexemes (t : Text) : (lexemes t).flatMap Lexeme.text = t := by
  fun_induction lexemes t with
  | case1 => rfl
  | case2 t ih =>
      rw [List.flatMap_cons, ih, Lexeme.text, List.cons_append, splitString_append]
  | case3 c t _ _ ih =>
      rw [List.flatMap_cons, ih, Lexeme.text, List.cons_append, List.takeWhile_append_dropWhile]
  | case4 c t _ _ h ih =>
      obtain ⟨t, rfl⟩ := List.head?_eq_some_iff.mp h.2
      rw [List.flatMap_cons, ih, Lexeme.text, List.tail_cons, List.cons_append, List.cons_append,
        splitComment_append]
  | case5 c t _ _ _ ih => rw [List.flatMap_cons, ih]; rfl

/-- The text with a space in the place of every hidden brace. -/
def blanked (t : Text) : Text := (lexemes t).flatMap Lexeme.blanked

theorem blanked_eq_self {t : Text}
    (h : ∀ x ∈ lexemes t, ∀ c ∈ x.hidden, isBrace c = false) : blanked t = t := by
  have hsame : (lexemes t).flatMap Lexeme.blanked = (lexemes t).flatMap Lexeme.text :=
    List.flatMap_congr fun x hx => Lexeme.blanked_eq_text (h x hx)
  rw [blanked, hsame, flatMap_text_lexemes]

/-! ## Blanking along the regions -/

/-- The text with a space in the place of every brace outside of code, the text beginning in region
`s`. -/
def blankedIn (s : Region) : Text → Text
  | [] => []
  | c :: t => (if s = .code then c else blankBrace c) :: blankedIn (s.next c t.head?) t

@[simp] theorem length_blankedIn (s : Region) (t : Text) : (blankedIn s t).length = t.length := by
  induction t generalizing s with
  | nil => rfl
  | cons c t ih => rw [blankedIn, List.length_cons, List.length_cons, ih]

/-- A string is left behind its closing quote. -/
theorem blankedIn_quoted (t : Text) :
    blankedIn .quoted t
      = (splitString t).1.map blankBrace ++ blankedIn .code (splitString t).2 := by
  fun_induction splitString t with
  | case1 => rfl
  | case2 c t ih =>
      show blankBrace '\\' :: blankBrace c :: blankedIn .quoted t = _
      rw [ih]
      rfl
  | case3 t => rfl
  | case4 c t hescape hquote ih =>
      have hnext : blankedIn (Region.next .quoted c t.head?) t = blankedIn .quoted t := by
        by_cases hc : c = '\\'
        · -- the text ends with the backslash
          cases t with
          | nil => rfl
          | cons d t => exact absurd rfl (hescape d t hc)
        · simp [Region.next, hc, hquote]
      show blankBrace c :: blankedIn (Region.next .quoted c t.head?) t = _
      rw [hnext, ih]
      rfl

/-- A comment on a line is left before the newline. -/
theorem blankedIn_lineComment (t : Text) :
    blankedIn .lineComment t
      = (t.takeWhile (· != '\n')).map blankBrace ++ blankedIn .code (t.dropWhile (· != '\n')) := by
  induction t with
  | nil => rfl
  | cons c t ih =>
      by_cases hc : c = '\n'
      · subst hc
        rfl
      · have hnext : Region.next .lineComment c t.head? = .lineComment := by
          simp [Region.next, hc]
        rw [List.takeWhile_cons_of_pos (by simpa using hc),
          List.dropWhile_cons_of_pos (by simpa using hc), List.map_cons, List.cons_append, ← ih,
          blankedIn, if_neg (by decide), hnext]

/-- A comment between marks is left behind its closing mark. -/
theorem blankedIn_blockComment (t : Text) :
    blankedIn .blockComment t
      = (splitComment t).1.map blankBrace ++ blankedIn .code (splitComment t).2 := by
  fun_induction splitComment t with
  | case1 => rfl
  | case2 t => rfl
  | case3 c t hclosing ih =>
      have hnext : Region.next .blockComment c t.head? = .blockComment := by
        unfold Region.next
        refine if_neg ?_
        rintro ⟨hc, hslash⟩
        obtain ⟨rest, rfl⟩ := List.head?_eq_some_iff.mp hslash
        exact hclosing rest hc rfl
      rw [blankedIn, if_neg (by decide), hnext, ih]
      rfl

/-- Blanking along the regions is blanking the lexemes. -/
theorem blankedIn_code (t : Text) : blankedIn .code t = blanked t := by
  unfold blanked
  fun_induction lexemes t with
  | case1 => rfl
  | case2 t ih =>
      show '"' :: blankedIn .quoted t = _
      rw [blankedIn_quoted, ih]
      rfl
  | case3 c t hquote hcomment ih =>
      have hnext : Region.next .code c t.head? = .lineComment := by
        rcases hcomment with rfl | ⟨rfl, hslash⟩
        · rfl
        · simp [Region.next, hslash]
      have hblank : blankBrace c = c := by
        rcases hcomment with rfl | ⟨rfl, -⟩ <;> rfl
      rw [blankedIn, if_pos rfl, hnext, blankedIn_lineComment, ih, List.flatMap_cons,
        Lexeme.blanked, List.map_cons, hblank]
      rfl
  | case4 c t hquote hcomment hopening ih =>
      obtain ⟨rfl, hstar⟩ := hopening
      obtain ⟨t, rfl⟩ := List.head?_eq_some_iff.mp hstar
      show '/' :: '*' :: blankedIn .blockComment t = _
      rw [blankedIn_blockComment, List.tail_cons] at *
      rw [ih]
      rfl
  | case5 c t hquote hcomment hopening ih =>
      have hnext : Region.next .code c t.head? = .code := by
        obtain ⟨hhash, hslash⟩ := not_or.mp hcomment
        unfold Region.next
        rw [if_neg hquote, if_neg hhash, if_neg hslash, if_neg hopening]
      rw [blankedIn, if_pos rfl, hnext, ih]
      rfl

/-! ## Where blocks stand -/

/-- A part of a text: the index of its first character and the number of its characters. -/
structure Span where
  index : Nat
  length : Nat
deriving DecidableEq, Repr

/-- The part of a text that a span describes. -/
def Span.of (s : Span) (text : Text) : Text := (text.drop s.index).take s.length

namespace Block

/-- How many characters stand before the first brace that opens a block; all of them when there is
none. -/
def lead (m : BraceMode) (s : Region) : Text → Nat
  | [] => 0
  | c :: t => if s = .code ∧ c = '\x7b' then 0 else lead m (m.next s c t) t + 1

/-- Where the first block at or after an index stands. -/
def span (m : BraceMode) (text : Text) (start : Nat) : Span :=
  ⟨start + lead m .code (text.drop start), (startingAt m text start).text.length⟩

/-- The rest of a block is a first part of the text in which it is closed. -/
theorem close_isPrefix (m : BraceMode) (s : Region) (inner : Nat) (t : Text) :
    (close m s inner t).text <+: t := by
  induction t generalizing s inner with
  | nil => exact List.nil_prefix
  | cons c t ih =>
      rw [close_cons]
      have hcons : ∀ inner, ((close m (m.next s c t) inner t).cons c).text <+: c :: t :=
        fun inner => (List.prefix_cons_inj c).mpr (ih _ inner)
      split
      · exact hcons _
      · split
        · cases inner with
          | zero => exact (List.prefix_cons_inj c).mpr List.nil_prefix
          | succ inner => exact hcons inner
        · exact hcons _

/-- The first block of a text begins behind its lead. -/
theorem first_isPrefix (m : BraceMode) (s : Region) (t : Text) :
    (first m s t).text <+: t.drop (lead m s t) := by
  induction t generalizing s with
  | nil => exact List.nil_prefix
  | cons c t ih =>
      rw [first, lead]
      split
      · exact (List.prefix_cons_inj c).mpr (close_isPrefix m _ 0 t)
      · exact ih _

/-- The first block at or after an index is the part of the text that its span describes. -/
theorem text_startingAt (m : BraceMode) (text : Text) (start : Nat) :
    (startingAt m text start).text = (span m text start).of text := by
  have hprefix := first_isPrefix m .code (text.drop start)
  rw [List.drop_drop] at hprefix
  exact List.prefix_iff_eq_take.mp hprefix

/-! ## The two walks side by side -/

/-- To the closing brace, the plain walk over the blanked text and the quote-aware walk take the
same number of steps, and both find it or neither. -/
theorem close_blankedIn (s : Region) (inner : Nat) (t : Text) :
    (close .plain .code inner (blankedIn s t)).text.length
        = (close .quoteAware s inner t).text.length ∧
      (close .plain .code inner (blankedIn s t)).closed = (close .quoteAware s inner t).closed := by
  induction t generalizing s inner with
  | nil => exact ⟨rfl, rfl⟩
  | cons c t ih =>
      rw [blankedIn, close_cons, close_cons]
      have hcons : ∀ (d : Char) (inner : Nat),
          ((close .plain .code inner (blankedIn (s.next c t.head?) t)).cons d).text.length
              = ((close .quoteAware (s.next c t.head?) inner t).cons c).text.length ∧
            ((close .plain .code inner (blankedIn (s.next c t.head?) t)).cons d).closed
              = ((close .quoteAware (s.next c t.head?) inner t).cons c).closed := by
        intro d inner
        obtain ⟨hlength, hclosed⟩ := ih (s.next c t.head?) inner
        exact ⟨congrArg (· + 1) hlength, hclosed⟩
      by_cases hs : s = .code
      · subst hs
        rw [if_pos rfl]
        by_cases hopen : c = '\x7b'
        · rw [if_pos ⟨rfl, hopen⟩, if_pos ⟨rfl, hopen⟩]
          exact hcons c (inner + 1)
        · have hopening : ¬ (Region.code = .code ∧ c = '\x7b') := fun h => hopen h.2
          rw [if_neg hopening, if_neg hopening]
          by_cases hclose : c = '\x7d'
          · rw [if_pos ⟨rfl, hclose⟩, if_pos ⟨rfl, hclose⟩]
            cases inner with
            | zero => exact ⟨rfl, rfl⟩
            | succ inner => exact hcons c inner
          · have hclosing : ¬ (Region.code = .code ∧ c = '\x7d') := fun h => hclose h.2
            rw [if_neg hclosing, if_neg hclosing]
            exact hcons c inner
      · -- outside of code neither walk counts
        have hbrace := isBrace_blankBrace c
        simp only [isBrace, Bool.or_eq_false_iff, decide_eq_false_iff_not] at hbrace
        rw [if_neg hs, if_neg (fun h => hbrace.1 h.2), if_neg (fun h => hbrace.2 h.2),
          if_neg (fun h => hs h.1), if_neg (fun h => hs h.1)]
        exact hcons (blankBrace c) inner

/-- Before a block and in it, the plain walk over the blanked text and the quote-aware walk take the
same number of steps, and both find its end or neither. -/
theorem first_blankedIn (s : Region) (t : Text) :
    lead .plain .code (blankedIn s t) = lead .quoteAware s t ∧
      (first .plain .code (blankedIn s t)).text.length = (first .quoteAware s t).text.length ∧
      (first .plain .code (blankedIn s t)).closed = (first .quoteAware s t).closed := by
  induction t generalizing s with
  | nil => exact ⟨rfl, rfl, rfl⟩
  | cons c t ih =>
      rw [blankedIn, lead, lead, first, first]
      obtain ⟨hlead, hfirst⟩ := ih (s.next c t.head?)
      by_cases hs : s = .code
      · subst hs
        rw [if_pos rfl]
        by_cases hopen : c = '\x7b'
        · have hopening : Region.code = .code ∧ c = '\x7b' := ⟨rfl, hopen⟩
          rw [if_pos hopening, if_pos hopening, if_pos hopening, if_pos hopening]
          obtain ⟨hlength, hclosed⟩ := close_blankedIn (Region.code.next c t.head?) 0 t
          exact ⟨rfl, congrArg (· + 1) hlength, hclosed⟩
        · have hopening : ¬ (Region.code = .code ∧ c = '\x7b') := fun h => hopen h.2
          rw [if_neg hopening, if_neg hopening, if_neg hopening, if_neg hopening]
          exact ⟨congrArg (· + 1) hlead, hfirst⟩
      -- outside code no brace opens the block, and a blanked one does not either
      · have hbrace := isBrace_blankBrace c
        simp only [isBrace, Bool.or_eq_false_iff, decide_eq_false_iff_not] at hbrace
        have hopening : ¬ (s = .code ∧ c = '\x7b') := fun h => hs h.1
        have hblank : ¬ (Region.code = .code ∧ blankBrace c = '\x7b') := fun h => hbrace.1 h.2
        rw [if_neg hs, if_neg hblank, if_neg hblank, if_neg hopening, if_neg hopening]
        exact ⟨congrArg (· + 1) hlead, hfirst⟩

/-- What is logged on the way to a block depends on its length and on whether it is closed. -/
theorem log_extract_congr {m m' : BraceMode} {text text' : Text} {start : Nat}
    (hlength : (startingAt m text start).text.length = (startingAt m' text' start).text.length)
    (hclosed : (startingAt m text start).closed = (startingAt m' text' start).closed) :
    (extract m text start).log = (extract m' text' start).log := by
  rw [log_extract, log_extract]
  simp only [ne_eq, ← List.length_eq_zero_iff, hlength, hclosed]

end Block

/-! ## Blanking a text from an index on -/

/-- The text with a space in the place of every brace that is hidden when the text is cut into
lexemes from an index on. -/
def blankedFrom (text : Text) (start : Nat) : Text :=
  text.take start ++ blanked (text.drop start)

/-- From the index on, the text is blanked. -/
theorem drop_blankedFrom (text : Text) (start : Nat) :
    (blankedFrom text start).drop start = blanked (text.drop start) := by
  unfold blankedFrom
  by_cases hstart : start ≤ text.length
  · exact List.drop_left' (List.length_take_of_le hstart)
  · -- behind the end there is nothing to blank
    have hnone : text.drop start = [] := List.drop_of_length_le (by omega)
    have hblank : blanked [] = [] := by rw [← blankedIn_code]; rfl
    rw [hnone, hblank, List.append_nil, List.drop_take, Nat.sub_self, List.take_zero]

/-- Quote-aware extraction is plain extraction of the text in which hidden braces make place for
spaces, for every text and every index.  Both find the same part of the text, closed or not, and log
the same; the one gives that part of the text, the other that part of the blanked text.  So the two
modes agree about a text without hidden braces. -/
theorem extract_blankedFrom (text : Text) (start : Nat) :
    let blank := blankedFrom text start
    let span := Block.span .quoteAware text start
    Block.span .plain blank start = span ∧
      (Block.startingAt .plain blank start).closed
        = (Block.startingAt .quoteAware text start).closed ∧
      (Block.extract .quoteAware text start).value = span.of text ∧
      (Block.extract .plain blank start).value = span.of blank ∧
      (Block.extract .plain blank start).log = (Block.extract .quoteAware text start).log ∧
      ((∀ x ∈ lexemes (text.drop start), ∀ c ∈ x.hidden, isBrace c = false) →
        Block.startingAt .plain text start = Block.startingAt .quoteAware text start ∧
          Block.extract .plain text start = Block.extract .quoteAware text start) := by
  intro blank span
  have hdrop : blank.drop start = blankedIn .code (text.drop start) := by
    rw [drop_blankedFrom, blankedIn_code]
  -- both ways of reading go through the same characters, one with the hidden braces blanked
  obtain ⟨hlead, hlength, hclosed⟩ := Block.first_blankedIn .code (text.drop start)
  rw [← hdrop] at hlead hlength hclosed
  have hspan : Block.span .plain blank start = span := by
    unfold Block.span
    rw [hlead]
    exact congrArg (Span.mk _) hlength
  have hlog : (Block.extract .plain blank start).log = (Block.extract .quoteAware text start).log :=
    Block.log_extract_congr hlength hclosed
  have haware : (Block.extract .quoteAware text start).value = span.of text := by
    rw [Block.value_extract, Block.text_startingAt]
  have hplain : (Block.extract .plain blank start).value = span.of blank := by
    rw [Block.value_extract, Block.text_startingAt, hspan]
  refine ⟨hspan, hclosed, haware, hplain, hlog, ?_⟩
  intro hbare
  -- with no hidden brace there is nothing to blank
  have hsame : blank = text := by
    show text.take start ++ blanked (text.drop start) = text
    rw [blanked_eq_self hbare, List.take_append_drop]
  rw [hsame] at hclosed hplain hlog
  constructor
  · have htext := hplain.trans haware.symm
    rw [Block.value_extract, Block.value_extract] at htext
    exact congrArg₂ Block.mk htext hclosed
  · exact Logged.ext_of (hplain.trans haware.symm) hlog

/-- Braces in comments and in a string, one of them behind an escaped quote. -/
def mixedText : Text := "/* \x7b */ \x7b a = \"\x7d\\\"\x7b\" // \x7b\n\x7d /* \x7d"

/-- Comments that hide a quote but no brace. -/
def bareText : Text := "# \" \n\x7b \x7b \x7d /* "

/-- The quote-aware block ends where the plain block of the blanked text ends, and about the text
without hidden braces the two modes agree. -/
theorem extract_blankedFrom_mixed :
    (Block.extract .quoteAware mixedText 0).value
        = ("\x7b a = \"\x7d\\\"\x7b\" // \x7b\n\x7d" : Text) ∧
      (Block.extract .plain (blankedFrom mixedText 0) 0).value
        = ("\x7b a = \" \\\" \" //  \n\x7d" : Text) ∧
      Block.extract .plain bareText 0 = Block.extract .quoteAware bareText 0 := by
  obtain ⟨-, -, haware, hplain, -, -⟩ := extract_blankedFrom mixedText 0
  obtain ⟨-, -, -, -, -, hbare⟩ := extract_blankedFrom bareText 0
  have hnone : ((lexemes (bareText.drop 0)).all fun x => x.hidden.all fun c => !isBrace c)
      = true := by cbv
  refine ⟨?_, ?_, (hbare ?_).2⟩
  · rw [haware]
    decide
  · rw [hplain]
    cbv
  · intro x hx c hc
    simpa using List.all_eq_true.mp (List.all_eq_true.mp hnone x hx) c hc

end ModuleDocs.Hcl
