import ModuleDocs.Proofs.Hcl.FieldWords
import ModuleDocs.Proofs.Hcl.WrittenValues

/-! # Searches over written fields

    A block is written as items on lines of their own, each a word and what
    follows it.  A search for a word crosses the items of other words and
    ends at the first item of its own; when there is none, it finds nothing.
    Words that begin anywhere and words that begin an item of a block are
    looked for by different walks, and both have these two properties. -/

namespace ModuleDocs.Hcl

open Text

/-! ## Crossing a stretch -/

/-- Whether what `read` finds always begins with a word that is set. -/
def LooksFor {α : Type} (word : Text) (read : Text → Option α) : Prop :=
  ∀ t a, read t = some a → SetsHere word t

section Crossing

variable {α : Type} {word : Text} {read : Text → Option α} (hread : LooksFor word read)
include hread

/-- Where the word is not set nothing is found. -/
theorem LooksFor.eq_none {t : Text} (h : ¬ SetsHere word t) : read t = none := by
  cases hr : read t with
  | none => rfl
  | some a => exact absurd (hread t a hr) h

/-- A search at word starts crosses a stretch in which its word is nowhere set. -/
theorem findAtWordStart?_append {u rest : Text} {inWord : Bool}
    (hu : SetsNowhere word rest inWord u) :
    findAtWordStart? read inWord (u ++ rest)
      = findAtWordStart? read (inWordAfter inWord u) rest := by
  induction u generalizing inWord with
  | nil => rfl
  | cons c u ih =>
      obtain ⟨hhere, hlater⟩ := hu
      have hnone : (if inWord = true then none else read (c :: (u ++ rest))) = none := by
        cases inWord with
        | true => rfl
        | false => exact hread.eq_none (hhere rfl)
      rw [List.cons_append, findAtWordStart?, hnone]
      exact ih hlater

theorem findAtWordStart?_eq_none {t : Text} {inWord : Bool} (h : SetsNowhere word [] inWord t) :
    findAtWordStart? read inWord t = none := by
  have hcross := findAtWordStart?_append hread h
  rwa [List.append_nil] at hcross

/-- Behind the blanks at the start of a stretch of whole lines the word is not set. -/
theorem read_skipBlanks_eq_none {u rest : Text} (hu : SetsNowhere word rest false u)
    (hend : u.getLast? = some '\n') : read (skipBlanks (u ++ rest)) = none := by
  -- the blanks end before the stretch does, since its last character is no blank
  induction u with
  | nil => exact nomatch hend
  | cons c u ih =>
      obtain ⟨hhere, hlater⟩ := hu
      by_cases hc : isBlank c = true
      · rw [List.cons_append, skipBlanks, List.dropWhile_cons_of_pos hc]
        rw [isWord_of_isSpace (isSpace_of_isBlank hc)] at hlater
        refine ih hlater ?_
        cases u with
        | nil =>
            obtain rfl : c = '\n' := Option.some.inj hend
            exact absurd hc (by decide)
        | cons d u => simpa using hend
      · rw [List.cons_append, skipBlanks, List.dropWhile_cons_of_neg hc]
        exact hread.eq_none (hhere rfl)

/-- A search at item starts crosses whole lines in which its word is nowhere set. -/
theorem findAtItemStart?_append {u rest : Text} {inWord lineStart : Bool}
    (hu : SetsNowhere word rest inWord u) (hstart : lineStart = true → inWord = false)
    (hend : u.getLast? = some '\n') :
    findAtItemStart? read lineStart (u ++ rest) = findAtItemStart? read true rest := by
  -- an item may start at a line start or behind a brace, and no word goes on at either place
  induction u generalizing inWord lineStart with
  | nil => exact nomatch hend
  | cons c u ih =>
      have hline : (if lineStart = true then read (skipBlanks (c :: (u ++ rest))) else none)
          = none := by
        cases lineStart with
        | false => rfl
        | true =>
            rw [hstart rfl] at hu
            exact read_skipBlanks_eq_none hread hu hend
      rw [List.cons_append, findAtItemStart?, hline]
      cases u with
      | nil =>
          obtain rfl : c = '\n' := Option.some.inj hend
          rfl
      | cons d u =>
          have hend' : (d :: u).getLast? = some '\n' := by simpa using hend
          have hbrace : (if c = '\x7b' then read (skipBlanks (d :: u ++ rest)) else none)
              = none := by
            by_cases hc : c = '\x7b'
            · subst hc
              exact read_skipBlanks_eq_none hread hu.2 hend'
            · rw [if_neg hc]
          simp only [hbrace]
          refine ih hu.2 ?_ hend'
          intro hnewline
          obtain rfl : c = '\n' := by simpa using hnewline
          decide

end Crossing

/-- A search at word starts ends where there is a match. -/
theorem findAtWordStart?_here {α : Type} {read : Text → Option α} {t : Text} {a : α}
    (ha : read t = some a) (hne : t ≠ []) : findAtWordStart? read false t = some a := by
  obtain ⟨c, t, rfl⟩ := List.exists_cons_of_ne_nil hne
  rw [findAtWordStart?, if_neg (by decide), ha]

/-- What is done with the match of a search at word starts can be done by its reader. -/
theorem findAtWordStart?_map {α β : Type} (f : α → β) (read : Text → Option α) (inWord : Bool)
    (t : Text) :
    (findAtWordStart? read inWord t).map f
      = findAtWordStart? (fun t => (read t).map f) inWord t := by
  induction t generalizing inWord with
  | nil => rfl
  | cons c t ih =>
      rw [findAtWordStart?, findAtWordStart?]
      cases inWord with
      | true => exact ih (isWord c)
      | false =>
          cases hread : read (c :: t) with
          | none => simpa using ih (isWord c)
          | some a => simp

/-- What is done with the match of a search at item starts can be done by its reader. -/
theorem findAtItemStart?_map {α β : Type} (f : α → β) (read : Text → Option α) (lineStart : Bool)
    (t : Text) :
    (findAtItemStart? read lineStart t).map f
      = findAtItemStart? (fun t => (read t).map f) lineStart t := by
  induction t generalizing lineStart with
  | nil => rfl
  | cons c t ih =>
      rw [findAtItemStart?, findAtItemStart?]
      have hline : (if lineStart = true then (read (skipBlanks (c :: t))).map f else none)
          = (if lineStart = true then read (skipBlanks (c :: t)) else none).map f := by
        cases lineStart <;> rfl
      have hbrace : (if c = '\x7b' then (read (skipBlanks t)).map f else none)
          = (if c = '\x7b' then read (skipBlanks t) else none).map f := by
        split <;> rfl
      rw [hline, hbrace]
      cases (if lineStart = true then read (skipBlanks (c :: t)) else none) with
      | some a => rfl
      | none =>
          cases (if c = '\x7b' then read (skipBlanks t) else none) with
          | some a => rfl
          | none => exact ih (c = '\n')

/-! ## What the readers look for -/

/-- What is done with a match does not change what is looked for. -/
theorem LooksFor.map {α β : Type} {word : Text} {read : Text → Option α} (h : LooksFor word read)
    (f : α → β) : LooksFor word fun t => (read t).map f := by
  intro t b hb
  obtain ⟨a, ha, -⟩ := Option.map_eq_some_iff.mp hb
  exact h t a ha

/-- An assignment looks for its word. -/
theorem looksFor_afterAssigned (word : Text) : LooksFor word (afterAssigned? word) := by
  intro t a h
  obtain ⟨r, hr, hequals⟩ := Option.bind_eq_some_iff.mp h
  refine ⟨r, hr, ?_⟩
  rw [dropPrefix?_eq_some_iff.mp hequals]
  rfl

/-- A further test of a match does not change what is looked for. -/
theorem LooksFor.bind {α β : Type} {word : Text} {read : Text → Option α} (h : LooksFor word read)
    (f : α → Option β) : LooksFor word fun t => (read t).bind f := by
  intro t b hb
  obtain ⟨a, ha, -⟩ := Option.bind_eq_some_iff.mp hb
  exact h t a ha

/-- A single equals sign is a mark. -/
theorem head_of_afterSingleEquals? {t r : Text} (h : afterSingleEquals? t = some r) :
    t.head? = some '=' := by
  rw [afterSingleEquals?.eq_def] at h
  split at h
  · exact nomatch h
  · rfl
  · exact nomatch h

/-- Blanks before a mark are white space before it. -/
theorem any_isMark_of_skipBlanks {t : Text} {c : Char} (hc : isMark c = true)
    (h : (skipBlanks t).head? = some c) : (trimStart t).head?.any isMark = true := by
  have hspace := isSpace_of_isMark hc
  induction t with
  | nil => exact absurd h (Option.some_ne_none c).symm
  | cons d t ih =>
      by_cases hd : isBlank d = true
      · rw [skipBlanks, List.dropWhile_cons_of_pos hd] at h
        rw [trimStart, List.dropWhile_cons_of_pos (isSpace_of_isBlank hd)]
        exact ih h
      · rw [skipBlanks, List.dropWhile_cons_of_neg hd] at h
        obtain rfl : d = c := Option.some.inj h
        rw [trimStart, List.dropWhile_cons_of_neg (by simp [hspace])]
        exact hc

/-- The type is looked for by its word. -/
theorem looksFor_afterType : LooksFor "type" afterType? := by
  intro t a h
  obtain ⟨r, hr, hequals⟩ := Option.bind_eq_some_iff.mp h
  exact ⟨r, hr, any_isMark_of_skipBlanks (by decide) (head_of_afterSingleEquals? hequals)⟩

/-- The default is looked for by its word. -/
theorem looksFor_afterDefault : LooksFor "default" afterDefault? := by
  intro t a h
  obtain ⟨r, hr, hequals⟩ := Option.bind_eq_some_iff.mp h
  refine ⟨r, hr, ?_⟩
  rw [head_of_afterSingleEquals? hequals]
  rfl

/-- The text from the brace of a validation on, when that is here. -/
def afterValidation? (t : Text) : Option Text :=
  (dropPrefix? "validation" t).bind fun r =>
    match trimStart r with
    | '\x7b' :: r => some ('\x7b' :: r)
    | _ => none

/-- The validation is looked for by its word. -/
theorem looksFor_afterValidation : LooksFor "validation" afterValidation? := by
  intro t a h
  obtain ⟨r, hr, hbrace⟩ := Option.bind_eq_some_iff.mp h
  refine ⟨r, hr, ?_⟩
  split at hbrace
  · next hskip => rw [hskip]; rfl
  · exact nomatch hbrace

/-- Where no validation is found there is none. -/
theorem validationField_none (m : BraceMode) {block : Text}
    (h : findAtWordStart? afterValidation? false block = none) :
    validationField m block = pure none := by
  rw [validationField]
  split
  · rfl
  · next rest hfound => exact nomatch hfound.symm.trans h

/-- Where a validation is found its block is extracted and its fields are read in that block. -/
theorem validationField_some (m : BraceMode) {block rest inner : Text}
    (h : findAtWordStart? afterValidation? false block = some rest)
    (hinner : Block.extract m block (block.length - rest.length) = pure inner) :
    validationField m block
      = pure (some ⟨conditionField inner, literalField "error_message" inner, inner⟩) := by
  rw [validationField]
  split
  · next hfound => exact nomatch hfound.symm.trans h
  · next rest' hfound =>
      obtain rfl : rest' = rest := Option.some.inj (hfound.symm.trans h)
      rw [hinner]
      rfl

theorem log_fieldsOf (m : BraceMode) (block : Text) :
    (fieldsOf m block).log = (validationField m block).log := List.append_nil _

/-- The mark of sensitive values is looked for by its word. -/
theorem looksFor_sensitive :
    LooksFor "sensitive" (fun t => do
      let t ← dropPrefix? "sensitive" t
      let t ← dropPrefix? ['='] (skipBlanks t)
      let t ← dropPrefix? "true" (skipBlanks t)
      if atWordEnd t then some () else none) := by
  intro t a h
  obtain ⟨r, hr, hrest⟩ := Option.bind_eq_some_iff.mp h
  obtain ⟨r', hequals, -⟩ := Option.bind_eq_some_iff.mp hrest
  have hhead : (skipBlanks r).head? = some '=' := by
    rw [dropPrefix?_eq_some_iff.mp hequals]
    rfl
  exact ⟨r, hr, any_isMark_of_skipBlanks (by decide) hhead⟩

/-- The text before a word that is set is crossed whole. -/
theorem beforeAssigned?_append {word u rest : Text} {inWord : Bool}
    (hu : SetsNowhere word rest inWord u) :
    beforeAssigned? word inWord (u ++ rest)
      = (beforeAssigned? word (inWordAfter inWord u) rest).map (u ++ ·) := by
  induction u generalizing inWord with
  | nil => simp [inWordAfter]
  | cons c u ih =>
      obtain ⟨hhere, hlater⟩ := hu
      have hnone : (!inWord && (afterAssigned? word (c :: (u ++ rest))).isSome) = false := by
        cases inWord with
        | true => rfl
        | false =>
            have hread := (looksFor_afterAssigned word).eq_none (hhere rfl)
            rw [List.cons_append] at hread
            rw [hread]
            rfl
      rw [List.cons_append, beforeAssigned?, hnone, ih hlater]
      simp [inWordAfter, Option.map_map, Function.comp_def]

/-- Where an assignment begins nothing stands before it. -/
theorem beforeAssigned?_here {word t : Text} (h : (afterAssigned? word t).isSome = true)
    (hne : t ≠ []) : beforeAssigned? word false t = some [] := by
  cases t with
  | nil => exact absurd rfl hne
  | cons c t => rw [beforeAssigned?, h]; rfl

/-! ## Written items -/

/-- One item of a block: its word and what follows the word. -/
structure Item where
  word : Text
  tail : Text
deriving DecidableEq, Repr

/-- The text of an item. -/
def Item.text (i : Item) : Text := i.word ++ i.tail

/-- Items on lines of their own, each behind a margin. -/
def writeItems (margin : Text) (items : List Item) : Text :=
  items.flatMap fun i => margin ++ i.text ++ ['\n']

/-- Items between braces, the closing brace behind a margin of its own. -/
def bracedItems (margin closing : Text) (items : List Item) : Text :=
  '\x7b' :: '\n' :: writeItems margin items ++ closing ++ ['\x7d']

theorem writeItems_append (margin : Text) (items more : List Item) :
    writeItems margin (items ++ more) = writeItems margin items ++ writeItems margin more :=
  List.flatMap_append

theorem writeItems_cons (margin : Text) (i : Item) (items : List Item) :
    writeItems margin (i :: items) = margin ++ i.text ++ '\n' :: writeItems margin items := by
  simp [writeItems]

/-- Items in which a given word is not set: their own words are others, and what follows them does
not set it as long as no mark follows the item. -/
structure Item.Silent (word : Text) (i : Item) : Prop where
  word_mem : i.word ∈ fieldWords
  other : i.word ≠ word
  boundary : ∀ c ∈ i.tail.head?, isWord c = false
  quiet : ∀ rest, Unmarked rest → ∀ inWord, SetsNowhere word ('\n' :: rest) inWord i.tail

theorem unmarked_newline {t : Text} (h : Unmarked t) : Unmarked ('\n' :: t) := h

/-- No mark comes at the start of a word. -/
theorem unmarked_of_isWord {c : Char} (hc : isWord c = true) (t : Text) : Unmarked (c :: t) := by
  rw [Unmarked, trimStart_eq_self (by simpa using isSpace_of_isWord hc)]
  simp [isMark_of_isWord hc]

theorem isWord_of_mem_margin {margin : Text} (hmargin : ∀ c ∈ margin, isBlank c = true) :
    ∀ c ∈ margin, isWord c = false :=
  fun c hc => isWord_of_isSpace (isSpace_of_isBlank (hmargin c hc))

/-- A closing brace behind blanks holds no word. -/
theorem isWord_of_mem_closing {closing : Text} (hclosing : ∀ c ∈ closing, isBlank c = true) :
    ∀ c ∈ closing ++ ['\x7d'], isWord c = false := by
  intro c hc
  rcases List.mem_append.mp hc with hc | hc
  · exact isWord_of_mem_margin hclosing c hc
  · obtain rfl := List.mem_singleton.mp hc
    decide

/-- Blanks before a text set no mark before it. -/
theorem unmarked_margin {margin t : Text} (hmargin : ∀ c ∈ margin, isBlank c = true)
    (h : Unmarked t) : Unmarked (margin ++ t) := by
  rw [Unmarked, trimStart,
    List.dropWhile_append_of_pos fun c hc => isSpace_of_isBlank (hmargin c hc)]
  exact h

/-- No mark comes at the start of an item. -/
theorem unmarked_item {margin : Text} (hmargin : ∀ c ∈ margin, isBlank c = true) {i : Item}
    (hi : i.word ∈ fieldWords) (rest : Text) : Unmarked (margin ++ i.text ++ rest) := by
  obtain ⟨hne, hword⟩ := isWord_of_mem_fieldWords hi
  rw [List.append_assoc]
  refine unmarked_margin hmargin ?_
  rw [Item.text]
  cases hw : i.word with
  | nil => exact absurd hw hne
  | cons c w => exact unmarked_of_isWord (hword c (hw ▸ List.mem_cons_self)) _

/-- Behind a newline no word goes on. -/
theorem inWordAfter_of_newline {t : Text} (h : t.getLast? = some '\n') (inWord : Bool) :
    inWordAfter inWord t = false := by
  induction t generalizing inWord with
  | nil => exact nomatch h
  | cons c t ih =>
      cases t with
      | nil =>
          obtain rfl : c = '\n' := Option.some.inj h
          exact (by decide : isWord '\n' = false)
      | cons d t => exact ih (by simpa using h) (isWord c)

/-- Where no word stands no word goes on behind. -/
theorem inWordAfter_of_no_word {t : Text} (ht : ∀ c ∈ t, isWord c = false) :
    inWordAfter false t = false := by
  induction t with
  | nil => rfl
  | cons c t ih =>
      rw [inWordAfter, ht c List.mem_cons_self]
      exact ih fun d hd => ht d (List.mem_cons_of_mem c hd)

section Items

variable {word margin : Text} (hword : word ∈ fieldWords)
  (hmargin : ∀ c ∈ margin, isBlank c = true)
include hword hmargin

/-- In silent items the word is nowhere set. -/
theorem setsNowhere_writeItems {items : List Item} (hitems : ∀ i ∈ items, i.Silent word)
    {rest : Text} (hrest : Unmarked rest) :
    SetsNowhere word rest false (writeItems margin items) ∧
      Unmarked (writeItems margin items ++ rest) := by
  -- the last item needs to know what follows it, so both facts go through the items together
  induction items with
  | nil => exact ⟨trivial, hrest⟩
  | cons i items ih =>
      obtain ⟨hlater, hopen⟩ := ih fun j hj => hitems j (List.mem_cons_of_mem i hj)
      have hi := hitems i List.mem_cons_self
      have hnewline : ∀ c ∈ ['\n'], isWord c = false := by decide
      have hshape : writeItems margin (i :: items)
          = margin ++ (i.word ++ (i.tail ++ (['\n'] ++ writeItems margin items))) := by
        rw [writeItems_cons, Item.text]
        simp
      have hlast : inWordAfter (inWordAfter (inWordAfter false i.word) i.tail) ['\n'] = false :=
        inWordAfter_of_newline rfl _
      refine ⟨?_, ?_⟩
      · rw [hshape]
        refine setsNowhere_append
          (setsNowhere_of_no_word hword _ (isWord_of_mem_margin hmargin) false) ?_
        rw [inWordAfter_of_no_word (isWord_of_mem_margin hmargin)]
        refine setsNowhere_append ?_ (setsNowhere_append ?_ (setsNowhere_append ?_ ?_))
        · -- behind the word of the item stands its tail or, when that is empty, a newline
          have hown := (isWord_of_mem_fieldWords hi.word_mem).2
          cases htail : i.tail with
          | nil => exact setsNowhere_other hword hown hi.other (by decide) _
          | cons c tail =>
              exact setsNowhere_other hword hown hi.other (hi.boundary c (by rw [htail]; rfl)) _
        · have hquiet := hi.quiet (writeItems margin items ++ rest) hopen
          simpa using hquiet (inWordAfter false i.word)
        · exact setsNowhere_of_no_word hword _ hnewline _
        · rw [hlast]
          exact hlater
      · rw [writeItems_cons, List.append_assoc]
        exact unmarked_item hmargin hi.word_mem _

/-- Up to the end of silent items no word is set in a block. -/
theorem setsNowhere_opening {items : List Item} (hitems : ∀ i ∈ items, i.Silent word)
    {rest : Text} (hrest : Unmarked rest) :
    SetsNowhere word rest false ('\x7b' :: '\n' :: writeItems margin items) := by
  have hbraces : ∀ c ∈ ['\x7b', '\n'], isWord c = false := by decide
  have hlines := (setsNowhere_writeItems hword hmargin hitems hrest).1
  refine setsNowhere_append (u := ['\x7b', '\n']) (setsNowhere_of_no_word hword _ hbraces false) ?_
  rw [inWordAfter_of_no_word hbraces]
  exact hlines

omit hword hmargin in
/-- A block begins with whole lines. -/
theorem getLast?_opening (items : List Item) :
    ('\x7b' :: '\n' :: writeItems margin items).getLast? = some '\n' := by
  rcases List.eq_nil_or_concat items with rfl | ⟨init, i, rfl⟩
  · rfl
  · have hshape : '\x7b' :: '\n' :: writeItems margin (init.concat i)
        = ('\x7b' :: '\n' :: writeItems margin init ++ margin ++ i.text) ++ ['\n'] := by
      simp [writeItems, List.concat_eq_append]
    rw [hshape, List.getLast?_concat]

omit hword hmargin in
/-- A block with an item is what stands before the item, its margin, and the rest from it on. -/
theorem bracedItems_split (closing : Text) (before after : List Item) (i : Item) :
    bracedItems margin closing (before ++ i :: after)
      = ('\x7b' :: '\n' :: writeItems margin before) ++ (margin ++
        (i.text ++ '\n' :: writeItems margin after ++ closing ++ ['\x7d'])) := by
  rw [bracedItems, writeItems_append, writeItems_cons]
  simp

omit hword hmargin in
/-- A block ends with what follows the word of its last item. -/
theorem bracedItems_concat (closing : Text) (before : List Item) (i : Item) :
    bracedItems margin closing (before ++ [i])
      = ('\x7b' :: '\n' :: writeItems margin before ++ margin ++ i.word) ++
        (i.tail ++ '\n' :: (closing ++ ['\x7d'])) := by
  rw [bracedItems_split]
  simp [Item.text, writeItems]

omit hword in
/-- No mark comes at the margin of an item. -/
theorem unmarked_before_item {i : Item} (hi : i.word ∈ fieldWords) (closing : Text)
    (after : List Item) :
    Unmarked (margin ++ (i.text ++ '\n' :: writeItems margin after ++ closing ++ ['\x7d'])) := by
  have := unmarked_item hmargin hi ('\n' :: writeItems margin after ++ closing ++ ['\x7d'])
  simpa using this

section Present

variable {α : Type} {read : Text → Option α} (hread : LooksFor word read) {closing : Text}
  {before after : List Item} {i : Item} (hbefore : ∀ j ∈ before, j.Silent word)
  (hi : i.word ∈ fieldWords)
include hread hbefore hi

/-- A search at word starts goes on at the first item of its own. -/
theorem findAtWordStart?_present {a : α}
    (ha : read (i.text ++ '\n' :: writeItems margin after ++ closing ++ ['\x7d']) = some a) :
    findAtWordStart? read false (bracedItems margin closing (before ++ i :: after)) = some a := by
  have hopening := setsNowhere_opening hword hmargin hbefore
    (unmarked_before_item hmargin hi closing after)
  rw [bracedItems_split, findAtWordStart?_append hread hopening,
    inWordAfter_of_newline (getLast?_opening before), findAtWordStart?_append hread
      (setsNowhere_of_no_word hword _ (isWord_of_mem_margin hmargin) false),
    inWordAfter_of_no_word (isWord_of_mem_margin hmargin)]
  exact findAtWordStart?_here ha (List.append_ne_nil_of_right_ne_nil _ (List.cons_ne_nil _ _))

/-- A search at item starts goes on at the first item of its own. -/
theorem findAtItemStart?_present {a : α}
    (ha : read (i.text ++ '\n' :: writeItems margin after ++ closing ++ ['\x7d']) = some a) :
    findAtItemStart? read true (bracedItems margin closing (before ++ i :: after)) = some a := by
  have hopening := setsNowhere_opening hword hmargin hbefore
    (unmarked_before_item hmargin hi closing after)
  rw [bracedItems_split, findAtItemStart?_append hread hopening (fun _ => rfl)
    (getLast?_opening before)]
  cases hw : i.word with
  | nil => exact absurd hw (isWord_of_mem_fieldWords hi).1
  | cons c w =>
      have hcons : i.text ++ '\n' :: writeItems margin after ++ closing ++ ['\x7d']
          = c :: (w ++ i.tail ++ '\n' :: writeItems margin after ++ closing ++ ['\x7d']) := by
        simp [Item.text, hw]
      have hc : isWord c = true := (isWord_of_mem_fieldWords hi).2 c (hw ▸ List.mem_cons_self)
      rw [hcons] at ha ⊢
      -- the margin is skipped up to the word, which is not blank
      have hskip : ∀ t : Text, skipBlanks (margin ++ c :: t) = c :: t :=
        dropWhile_eq_right hmargin (isBlank_of_isWord hc)
      generalize w ++ i.tail ++ '\n' :: writeItems margin after ++ closing ++ ['\x7d'] = t at ha ⊢
      have hread : (if true = true then read (skipBlanks (margin ++ c :: t)) else none)
          = some a := by
        rw [if_pos rfl, hskip, ha]
      cases hm : margin ++ c :: t with
      | nil => exact absurd hm (by simp)
      | cons d t' =>
          rw [hm] at hread
          rw [findAtItemStart?, hread]

end Present

section Absent

variable {α : Type} {read : Text → Option α} (hread : LooksFor word read) {items : List Item}
  (hitems : ∀ i ∈ items, i.Silent word)
include hread hitems

/-- In a block without an item of its own a search at word starts finds nothing. -/
theorem findAtWordStart?_absent {closing : Text} (hclosing : ∀ c ∈ closing, isBlank c = true) :
    findAtWordStart? read false (bracedItems margin closing items) = none := by
  have hend := isWord_of_mem_closing hclosing
  have hopen : Unmarked (closing ++ ['\x7d'] ++ []) := by
    rw [List.append_nil]
    exact unmarked_margin hclosing rfl
  have hshape : bracedItems margin closing items
      = ('\x7b' :: '\n' :: writeItems margin items) ++ (closing ++ ['\x7d']) := by
    simp [bracedItems]
  rw [hshape]
  exact findAtWordStart?_eq_none hread (setsNowhere_append
    (setsNowhere_opening hword hmargin hitems hopen) (setsNowhere_of_no_word hword _ hend _))

/-- In a block without an item of its own a search at item starts finds nothing. -/
theorem findAtItemStart?_absent :
    findAtItemStart? read true (bracedItems margin [] items) = none := by
  have hshape : bracedItems margin [] items
      = ('\x7b' :: '\n' :: writeItems margin items) ++ ['\x7d'] := by
    simp [bracedItems]
  have hbrace : read ['\x7d'] = none := hread.eq_none
    (not_setsHere_of_head (isWord_of_mem_fieldWords hword).1
      (not_mem_fieldWord hword (by decide)) [])
  have hopen : Unmarked ['\x7d'] := rfl
  rw [hshape, findAtItemStart?_append hread (setsNowhere_opening hword hmargin hitems hopen)
    (fun _ => rfl) (getLast?_opening items)]
  have hskip : skipBlanks ['\x7d'] = ['\x7d'] := rfl
  rw [findAtItemStart?, if_pos rfl, hskip, hbrace]
  rfl

end Absent

section Optional

variable {α : Type} {read : Text → Option α} (hread : LooksFor word read) {before after : List Item}
  (hbefore : ∀ j ∈ before, j.Silent word) (hafter : ∀ j ∈ after, j.Silent word) {own : Option α}
  {item : α → Item} (hitem : ∀ a ∈ own, (item a).word = word)
  (hown : ∀ a ∈ own, ∀ rest, read ((item a).text ++ '\n' :: rest) = some a)
include hread hbefore hafter hitem hown

/-- A search at word starts finds exactly what the item of its word holds, if there is one. -/
theorem findAtWordStart?_optional :
    findAtWordStart? read false (bracedItems margin [] (before ++ (own.map item).toList ++ after))
      = own := by
  cases own with
  | none =>
      have hall : ∀ j ∈ before ++ after, j.Silent word :=
        fun j hj => (List.mem_append.mp hj).elim (hbefore j) (hafter j)
      rw [Option.map_none, Option.toList_none, List.append_nil]
      exact findAtWordStart?_absent hword hmargin hread hall (by simp)
  | some a =>
      rw [Option.map_some, Option.toList_some, List.append_assoc]
      refine findAtWordStart?_present hword hmargin hread hbefore ?_ ?_
      · exact (hitem a rfl).symm ▸ hword
      · have ha := hown a rfl (writeItems margin after ++ [] ++ ['\x7d'])
        simpa using ha

/-- A search at item starts finds exactly what the item of its word holds, if there is one. -/
theorem findAtItemStart?_optional :
    findAtItemStart? read true (bracedItems margin [] (before ++ (own.map item).toList ++ after))
      = own := by
  cases own with
  | none =>
      have hall : ∀ j ∈ before ++ after, j.Silent word :=
        fun j hj => (List.mem_append.mp hj).elim (hbefore j) (hafter j)
      rw [Option.map_none, Option.toList_none, List.append_nil]
      exact findAtItemStart?_absent hword hmargin hread hall
  | some a =>
      rw [Option.map_some, Option.toList_some, List.append_assoc]
      refine findAtItemStart?_present hword hmargin hread hbefore ?_ ?_
      · exact (hitem a rfl).symm ▸ hword
      · have ha := hown a rfl (writeItems margin after ++ [] ++ ['\x7d'])
        simpa using ha

end Optional

end Items

end ModuleDocs.Hcl
