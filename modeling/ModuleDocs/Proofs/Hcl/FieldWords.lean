import ModuleDocs.Hcl.Fields
import ModuleDocs.Proofs.Text.Compound

/-! # Words that set a field

    Every field is looked for by its word, at a place where a word may begin,
    with an equals sign or an opening brace behind it.  A search crosses a
    stretch of text in which the word is nowhere set and goes on behind it
    with what stands there.  The stretches that a writer puts together are of
    three kinds: text without word characters, the words of other fields, and
    contents that set no field at all.

    Whether a word is set at a place depends on what follows the stretch, so
    `SetsNowhere` is told the rest of the text. -/

namespace ModuleDocs.Hcl

open Text

/-- The words of the fields of a declaration and of a validation. -/
def fieldWords : List Text :=
  ["description", "type", "default", "sensitive", "validation", "condition", "error_message"]

/-- What stands behind the word of a field: an equals sign or an opening brace. -/
def isMark (c : Char) : Bool := c = '=' || c = '\x7b'

/-- Whether a text sets a field somewhere: one of the words, as a word, then white space, then a
mark. -/
def SetsField (t : Text) : Prop :=
  ∃ before word blanks mark after, word ∈ fieldWords ∧
    t = before ++ word ++ blanks ++ mark :: after ∧
    (∀ c ∈ before.getLast?, isWord c = false) ∧ (∀ c ∈ blanks, isSpace c = true) ∧
    isMark mark = true

/-! ## Kinds of characters -/

theorem isMark_eq_false {c : Char} (hequals : c ≠ '=') (hbrace : c ≠ '\x7b') :
    isMark c = false := by
  simp [isMark, hequals, hbrace]

theorem isSpace_of_isMark {c : Char} (h : isMark c = true) : isSpace c = false := by
  simp only [isMark, Bool.or_eq_true, decide_eq_true_eq] at h
  rcases h with rfl | rfl
  · decide
  · decide

theorem isMark_of_isWord {c : Char} (h : isWord c = true) : isMark c = false :=
  isMark_eq_false (ne_of_class h (by decide)) (ne_of_class h (by decide))

theorem isWord_of_mem_fieldWords {word : Text} (h : word ∈ fieldWords) :
    word ≠ [] ∧ ∀ c ∈ word, isWord c = true := by
  have hall : ∀ w ∈ fieldWords, w ≠ [] ∧ ∀ c ∈ w, isWord c = true := by decide +kernel
  exact hall word h

theorem not_mem_fieldWord {word : Text} (h : word ∈ fieldWords) {c : Char}
    (hc : isWord c = false) : c ∉ word := by
  intro hmem
  rw [(isWord_of_mem_fieldWords h).2 c hmem] at hc
  exact nomatch hc

/-! ## Where a word is set -/

/-- Whether a text begins with a word and, white space apart, a mark behind it. -/
def SetsHere (word t : Text) : Prop :=
  ∃ r, dropPrefix? word t = some r ∧ (trimStart r).head?.any isMark = true

instance (word t : Text) : Decidable (SetsHere word t) :=
  decidable_of_iff (((dropPrefix? word t).any fun r => (trimStart r).head?.any isMark) = true)
    (Option.any_eq_true _ _)

/-- Whether no mark comes next, white space apart. -/
def Unmarked (t : Text) : Prop := (trimStart t).head?.any isMark = false

/-- Whether a word begins behind a stretch of text. -/
def inWordAfter : Bool → Text → Bool
  | inWord, [] => inWord
  | _, c :: t => inWordAfter (isWord c) t

/-- Whether a word is set at no place in `t` where a word may begin, `rest` standing behind `t`. -/
def SetsNowhere (word rest : Text) : Bool → Text → Prop
  | _, [] => True
  | inWord, c :: t =>
    (inWord = false → ¬ SetsHere word (c :: t ++ rest)) ∧ SetsNowhere word rest (isWord c) t

theorem inWordAfter_append (inWord : Bool) (u v : Text) :
    inWordAfter inWord (u ++ v) = inWordAfter (inWordAfter inWord u) v := by
  induction u generalizing inWord with
  | nil => rfl
  | cons c u ih => exact ih (isWord c)

/-- Two stretches in which a word is nowhere set make one. -/
theorem setsNowhere_append {word rest u v : Text} {inWord : Bool}
    (hu : SetsNowhere word (v ++ rest) inWord u)
    (hv : SetsNowhere word rest (inWordAfter inWord u) v) :
    SetsNowhere word rest inWord (u ++ v) := by
  induction u generalizing inWord with
  | nil => exact hv
  | cons c u ih =>
      obtain ⟨hhere, hlater⟩ := hu
      have hassoc : c :: u ++ (v ++ rest) = c :: (u ++ v) ++ rest := by simp
      rw [hassoc] at hhere
      exact ⟨hhere, ih hlater hv⟩

/-- A word is not set where another character comes first. -/
theorem not_setsHere_of_head {word : Text} {c : Char} (hne : word ≠ []) (hc : c ∉ word)
    (t : Text) : ¬ SetsHere word (c :: t) := by
  rintro ⟨r, hr, -⟩
  cases word with
  | nil => exact hne rfl
  | cons d word =>
      rw [dropPrefix?_eq_none_of_head fun h : d = c => hc (h ▸ List.mem_cons_self)] at hr
      exact nomatch hr

section Word

variable {word : Text} (hword : word ∈ fieldWords)
include hword

/-- No field is set among characters that are not part of words. -/
theorem setsNowhere_of_no_word (rest : Text) {t : Text} (ht : ∀ c ∈ t, isWord c = false)
    (inWord : Bool) : SetsNowhere word rest inWord t := by
  induction t generalizing inWord with
  | nil => trivial
  | cons c t ih =>
      have hc : isWord c = false := ht c List.mem_cons_self
      refine ⟨fun _ => ?_, ih (fun d hd => ht d (List.mem_cons_of_mem c hd)) _⟩
      exact not_setsHere_of_head (isWord_of_mem_fieldWords hword).1
        (not_mem_fieldWord hword hc) _

omit hword in
/-- Nothing is set in the middle of a word. -/
theorem setsNowhere_inside (rest : Text) {t : Text} (ht : ∀ c ∈ t, isWord c = true) :
    SetsNowhere word rest true t := by
  induction t with
  | nil => trivial
  | cons c t ih =>
      refine ⟨fun h => (nomatch h), ?_⟩
      rw [ht c List.mem_cons_self]
      exact ih fun d hd => ht d (List.mem_cons_of_mem c hd)

/-- The word of one field does not set another. -/
theorem setsNowhere_other {other : Text} (hother : ∀ c ∈ other, isWord c = true)
    (hne : other ≠ word) {c : Char} (hc : isWord c = false) (rest : Text) :
    SetsNowhere word (c :: rest) false other := by
  cases other with
  | nil => trivial
  | cons d other =>
      refine ⟨fun _ => ?_, ?_⟩
      · rintro ⟨r, hr, hmark⟩
        rw [dropPrefix?_append_cons (not_mem_fieldWord hword hc)] at hr
        obtain ⟨r', hr', rfl⟩ := Option.map_eq_some_iff.mp hr
        have hsplit := dropPrefix?_eq_some_iff.mp hr'
        cases r' with
        | nil => exact hne (hsplit.trans (List.append_nil word))
        | cons e r' =>
            -- the other word goes on behind `word`, so no mark can follow
            have he : isWord e = true :=
              hother e (hsplit ▸ List.mem_append_right word List.mem_cons_self)
            rw [List.cons_append, trimStart_eq_self (by simpa using isSpace_of_isWord he)] at hmark
            simp [isMark_of_isWord he] at hmark
      · rw [hother d List.mem_cons_self]
        exact setsNowhere_inside _ fun e he => hother e (List.mem_cons_of_mem d he)

/-- Where a word is set in a text with a boundary behind it, the text itself sets a field. -/
theorem setsField_of_setsHere {before t rest : Text} {c : Char} (hc : isWord c = false)
    (hopen : Unmarked (c :: rest)) (hbefore : ∀ d ∈ before.getLast?, isWord d = false)
    (h : SetsHere word (t ++ c :: rest)) : SetsField (before ++ t) := by
  obtain ⟨r, hr, hmark⟩ := h
  rw [dropPrefix?_append_cons (not_mem_fieldWord hword hc)] at hr
  obtain ⟨r', hr', rfl⟩ := Option.map_eq_some_iff.mp hr
  have hsplit := dropPrefix?_eq_some_iff.mp hr'
  cases hskip : trimStart r' with
  | nil =>
      -- only white space is left of the text, so the mark would have to come behind it
      have : trimStart (r' ++ c :: rest) = trimStart (c :: rest) := by
        rw [trimStart, List.dropWhile_append]
        rw [trimStart] at hskip
        rw [hskip]
        rfl
      rw [this, hopen] at hmark
      exact absurd hmark Bool.false_ne_true
  | cons d after =>
      have hrest : trimStart (r' ++ c :: rest) = d :: after ++ c :: rest := by
        rw [trimStart, List.dropWhile_append]
        rw [trimStart] at hskip
        rw [hskip]
        rfl
      rw [hrest] at hmark
      refine ⟨before, word, r'.takeWhile isSpace, d, after, hword, ?_, hbefore, ?_, hmark⟩
      · have hr'split : r'.takeWhile isSpace ++ d :: after = r' := by
          rw [← hskip]
          exact List.takeWhile_append_dropWhile
        rw [List.append_assoc, hr'split, hsplit, List.append_assoc]
      · intro e he
        exact List.all_eq_true.mp (List.all_takeWhile (l := r')) e he

/-- In a text that sets no field, with a boundary behind it, no word is set. -/
theorem setsNowhere_of_not_setsField {t : Text} (ht : ¬ SetsField t) {c : Char}
    (hc : isWord c = false) {rest : Text} (hopen : Unmarked (c :: rest)) :
    SetsNowhere word (c :: rest) false t := by
  -- the induction is on what is left of the text; `before` is what was passed
  have hgo : ∀ (t before : Text), ¬ SetsField (before ++ t) →
      SetsNowhere word (c :: rest) (inWordAfter false before) t := by
    intro t
    induction t with
    | nil => intro before _; trivial
    | cons d t ih =>
        intro before hset
        have hlast : ∀ (u : Text) (b : Bool), inWordAfter b u = false →
            ∀ e ∈ u.getLast?, isWord e = false := by
          intro u
          induction u with
          | nil => intro b _ e he; exact nomatch he
          | cons f u ihu =>
              intro b hu e he
              cases u with
              | nil =>
                  obtain rfl : f = e := Option.some.inj he
                  exact hu
              | cons g u => exact ihu (isWord f) hu e (by simpa using he)
        refine ⟨fun hb hhere => ?_, ?_⟩
        · exact hset (setsField_of_setsHere hword hc hopen (hlast before false hb) hhere)
        · have hnext := ih (before ++ [d]) (by simpa using hset)
          rw [inWordAfter_append] at hnext
          exact hnext
  exact hgo t [] ht

end Word

/-- A text sets a field when one of the words is set at a place where a word may begin. -/
theorem setsField_iff (t : Text) :
    SetsField t ↔ ∃ n < t.length + 1, (∀ c ∈ (t.take n).getLast?, isWord c = false) ∧
      ∃ word ∈ fieldWords, SetsHere word (t.drop n) := by
  constructor
  · rintro ⟨before, word, blanks, mark, after, hword, rfl, hbefore, hblanks, hmark⟩
    refine ⟨before.length, ?_, ?_, word, hword, blanks ++ mark :: after, ?_, ?_⟩
    · simp only [List.length_append, List.length_cons]
      omega
    · rw [List.append_assoc, List.append_assoc, List.take_left]
      exact hbefore
    · rw [List.append_assoc, List.append_assoc, List.drop_left]
      exact dropPrefix?_append word _
    · rw [trimStart, dropWhile_eq_right hblanks (isSpace_of_isMark hmark)]
      exact hmark
  · rintro ⟨n, -, hbefore, word, hword, r, hr, hmark⟩
    have hsplit := dropPrefix?_eq_some_iff.mp hr
    cases hskip : trimStart r with
    | nil =>
        rw [hskip] at hmark
        exact absurd hmark Bool.false_ne_true
    | cons mark after =>
        rw [hskip] at hmark
        refine ⟨t.take n, word, r.takeWhile isSpace, mark, after, hword, ?_, hbefore, ?_, hmark⟩
        · have hr' : r.takeWhile isSpace ++ mark :: after = r := by
            rw [← hskip]
            exact List.takeWhile_append_dropWhile
          rw [List.append_assoc, hr', List.append_assoc, ← hsplit, List.take_append_drop]
        · intro c hc
          exact List.all_eq_true.mp (List.all_takeWhile (l := r)) c hc

instance (t : Text) : Decidable (SetsField t) := decidable_of_iff _ (setsField_iff t).symm

/-! ## Marks behind an exclamation mark -/

/-- Whether every mark in a text stands behind an exclamation mark. -/
def Guarded (t : Text) : Prop :=
  ∀ before mark after, t = before ++ mark :: after → isMark mark = true →
    before.getLast? = some '!'

/-- A text without marks has none to guard. -/
theorem guarded_of_no_mark {t : Text} (h : ∀ c ∈ t, isMark c = false) : Guarded t := by
  intro before mark after hsplit hmark
  rw [h mark (hsplit ▸ List.mem_append_right before List.mem_cons_self)] at hmark
  exact nomatch hmark

/-- One more guarded mark in front. -/
theorem Guarded.append {u t : Text} (hu : ∀ c ∈ u, isMark c = false) (ht : Guarded t) :
    Guarded (u ++ '!' :: '=' :: t) := by
  intro before mark after hsplit hmark
  have hbang : mark ≠ '!' := by
    rintro rfl
    exact absurd hmark (by decide)
  rcases List.append_eq_append_iff.mp hsplit with ⟨x, rfl, hx⟩ | ⟨y, rfl, hy⟩
  · rcases x with _ | ⟨c, _ | ⟨d, x⟩⟩
    · exact absurd (List.cons.inj hx).1.symm hbang
    · obtain rfl := (List.cons.inj hx).1
      rw [List.getLast?_append]
      rfl
    · obtain ⟨rfl, rfl, hrest⟩ : '!' = c ∧ '=' = d ∧ t = x ++ mark :: after := by
        simpa using hx
      have hlast := ht x mark after hrest hmark
      rw [List.getLast?_append, List.getLast?_cons_cons, List.getLast?_cons, hlast]
      rfl
  · cases y with
    | nil => exact absurd (List.cons.inj hy).1 hbang
    | cons c y =>
        obtain rfl := (List.cons.inj hy).1
        rw [hu mark (List.mem_append_right before List.mem_cons_self)] at hmark
        exact nomatch hmark

/-- A text with guarded marks only sets no field. -/
theorem not_setsField_of_guarded {t : Text} (h : Guarded t) : ¬ SetsField t := by
  rintro ⟨before, word, blanks, mark, after, hword, hsplit, -, hblanks, hmark⟩
  have hlast := h _ mark after hsplit hmark
  obtain ⟨hne, hchars⟩ := isWord_of_mem_fieldWords hword
  rw [List.getLast?_append, List.getLast?_append] at hlast
  cases hb : blanks.getLast? with
  | some c =>
      rw [hb] at hlast
      obtain rfl : c = '!' := Option.some.inj hlast
      exact absurd (hblanks '!' (List.mem_of_getLast? hb)) (by decide)
  | none =>
      cases hw : word.getLast? with
      | none => exact hne (List.getLast?_eq_none_iff.mp hw)
      | some c =>
          rw [hb, hw] at hlast
          obtain rfl : c = '!' := Option.some.inj hlast
          exact absurd (hchars '!' (List.mem_of_getLast? hw)) (by decide)

/-! ## Escaped contents -/

/-- Escaping keeps a start made of word characters. -/
theorem dropPrefix?_escape {word : Text} (hword : ∀ c ∈ word, isWord c = true) (t : Text) :
    dropPrefix? word (escape t) = (dropPrefix? word t).map escape := by
  induction word generalizing t with
  | nil => rfl
  | cons d word ih =>
      have hd : isWord d = true := hword d List.mem_cons_self
      cases t with
      | nil => rfl
      | cons c t =>
          by_cases hdc : d = c
          · subst hdc
            have hplain : ¬ (d = '\\' ∨ d = '"') := by
              rintro (rfl | rfl)
              · exact absurd hd (by decide)
              · exact absurd hd (by decide)
            rw [escape_cons_plain hplain, dropPrefix?, dropPrefix?, if_pos rfl, if_pos rfl]
            exact ih (fun e he => hword e (List.mem_cons_of_mem d he)) t
          · have hnone : dropPrefix? (d :: word) (c :: t) = none :=
              dropPrefix?_eq_none_of_head hdc word t
            rw [hnone]
            by_cases hc : c = '\\' ∨ c = '"'
            -- the backslash that is put in is no letter of the word either
            · rw [escape_cons_escaped hc]
              refine dropPrefix?_eq_none_of_head ?_ word _
              rintro rfl
              exact absurd hd (by decide)
            · rw [escape_cons_plain hc]
              exact dropPrefix?_eq_none_of_head hdc word _

/-- Escaping neither makes nor removes a mark at the start, white space apart. -/
theorem any_isMark_escape (t rest : Text) :
    (trimStart (escape t ++ '"' :: rest)).head?.any isMark
      = (trimStart (t ++ '"' :: rest)).head?.any isMark := by
  induction t with
  | nil => rfl
  | cons c t ih =>
      by_cases hc : c = '\\' ∨ c = '"'
      · rw [escape_cons_escaped hc]
        rcases hc with rfl | rfl
        · rfl
        · rfl
      · rw [escape_cons_plain hc, trimStart, trimStart, List.cons_append, List.cons_append]
        by_cases hs : isSpace c = true
        · rw [List.dropWhile_cons_of_pos hs, List.dropWhile_cons_of_pos hs]
          exact ih
        · rw [List.dropWhile_cons_of_neg hs, List.dropWhile_cons_of_neg hs]
          rfl

/-- Escaping does not set a word that was not set. -/
theorem setsHere_of_escape {word : Text} (hword : word ∈ fieldWords) {t rest : Text}
    (h : SetsHere word (escape t ++ '"' :: rest)) : SetsHere word (t ++ '"' :: rest) := by
  obtain ⟨r, hr, hmark⟩ := h
  have hquote : '"' ∉ word := not_mem_fieldWord hword (by decide)
  rw [dropPrefix?_append_cons hquote,
    dropPrefix?_escape (isWord_of_mem_fieldWords hword).2, Option.map_map] at hr
  obtain ⟨r', hr', rfl⟩ := Option.map_eq_some_iff.mp hr
  refine ⟨r' ++ '"' :: rest, ?_, ?_⟩
  · rw [dropPrefix?_append_cons hquote, hr']
    rfl
  · rw [← any_isMark_escape]
    exact hmark

/-- Escaping a text that sets no word gives one that sets none. -/
theorem setsNowhere_escape {word : Text} (hword : word ∈ fieldWords) {rest : Text} {t : Text}
    {inWord : Bool} (h : SetsNowhere word ('"' :: rest) inWord t) :
    SetsNowhere word ('"' :: rest) inWord (escape t) := by
  induction t generalizing inWord with
  | nil => trivial
  | cons c t ih =>
      obtain ⟨hhere, hlater⟩ := h
      have hne := (isWord_of_mem_fieldWords hword).1
      by_cases hc : c = '\\' ∨ c = '"'
      · have hcw : isWord c = false := by rcases hc with rfl | rfl <;> decide
        rw [escape_cons_escaped hc]
        refine ⟨fun _ => ?_, fun _ => ?_, ih hlater⟩
        · exact not_setsHere_of_head hne (not_mem_fieldWord hword (by decide)) _
        · exact not_setsHere_of_head hne (not_mem_fieldWord hword hcw) _
      · rw [escape_cons_plain hc]
        refine ⟨fun hb hset => hhere hb (setsHere_of_escape hword ?_), ih hlater⟩
        rwa [escape_cons_plain hc]

end ModuleDocs.Hcl
