import ModuleDocs.Proofs.Hcl.Balance
import ModuleDocs.Proofs.Hcl.FieldSearch
import ModuleDocs.Proofs.Log

/-! # Reading fields undoes writing them

    A block is written from its fields, each on a line of its own and each
    present or not.  Every field is read back as it was written, whatever the
    others hold, as long as no text among them sets a field itself.

    The seven searches go over one and the same text, so what carries the
    proof is that every written item is silent for all words but its own. -/

namespace ModuleDocs.Hcl

open Text

/-! ## How fields are written -/

/-- The blanks in front of the lines of a written block: of its own lines, of the lines of the
validation in it, and of the brace that closes the validation. -/
structure Margins where
  outer : Text
  inner : Text
  closing : Text
  outer_blank : ∀ c ∈ outer, isBlank c = true
  inner_blank : ∀ c ∈ inner, isBlank c = true
  closing_blank : ∀ c ∈ closing, isBlank c = true

/-- The margins of a formatted file. -/
def Margins.formatted : Margins := ⟨"  ", "    ", "  ", by decide, by decide, by decide⟩

/-- A text between double quotes. -/
def quoted (t : Text) : Text := '"' :: escape t ++ ['"']

/-- An item that sets its word to a value. -/
def Item.assign (word value : Text) : Item := ⟨word, ' ' :: '=' :: ' ' :: value⟩

/-- A validation as it is written: its condition and what to say when it fails. -/
structure WrittenRule where
  condition : Text
  errorMessage : Text
deriving DecidableEq, Repr

namespace WrittenRule

/-- The items of a validation. -/
def items (r : WrittenRule) : List Item :=
  [.assign "condition" r.condition, .assign "error_message" (quoted r.errorMessage)]

/-- What stands between the braces of a validation. -/
def body (g : Margins) (r : WrittenRule) : Text :=
  '\n' :: writeItems g.inner r.items ++ g.closing

/-- The block of a validation. -/
def block (g : Margins) (r : WrittenRule) : Text := bracedItems g.inner g.closing r.items

theorem block_eq (g : Margins) (r : WrittenRule) : r.block g = '\x7b' :: r.body g ++ ['\x7d'] := by
  simp [block, bracedItems, body]

/-- A validation among the items of a block. -/
def item (g : Margins) (r : WrittenRule) : Item := ⟨"validation", ' ' :: r.block g⟩

/-- What is asked of a validation: contents that set no field, a trimmed condition, a message on one
line, and balanced braces. -/
structure Fits (m : BraceMode) (g : Margins) (r : WrittenRule) : Prop where
  condition_trimmed : trim r.condition = r.condition
  condition_quiet : ¬ SetsField r.condition
  message_line : '\n' ∉ r.errorMessage
  message_quiet : ¬ SetsField r.errorMessage
  balanced : Balanced m (r.body g)

instance (m : BraceMode) (g : Margins) (r : WrittenRule) : Decidable (r.Fits m g) :=
  decidable_of_iff
    (trim r.condition = r.condition ∧ ¬ SetsField r.condition ∧ '\n' ∉ r.errorMessage ∧
      ¬ SetsField r.errorMessage ∧ Balanced m (r.body g))
    ⟨fun h => ⟨h.1, h.2.1, h.2.2.1, h.2.2.2.1, h.2.2.2.2⟩, fun h =>
      ⟨h.condition_trimmed, h.condition_quiet, h.message_line, h.message_quiet, h.balanced⟩⟩

/-- The validation that is read back. -/
def validation (g : Margins) (r : WrittenRule) : Validation :=
  ⟨r.condition, r.errorMessage, r.block g⟩

end WrittenRule

/-- The value of an assignment that can be read back: an expression, complete and trimmed, that sets
no field. -/
structure IsValue (t : Text) : Prop where
  nonempty : t ≠ []
  trimmed : trim t = t
  complete : Complete t
  quiet : ¬ SetsField t

instance (t : Text) : Decidable (IsValue t) :=
  decidable_of_iff (t ≠ [] ∧ trim t = t ∧ Complete t ∧ ¬ SetsField t)
    ⟨fun h => ⟨h.1, h.2.1, h.2.2.1, h.2.2.2⟩,
      fun h => ⟨h.nonempty, h.trimmed, h.complete, h.quiet⟩⟩

/-- The fields of a block, each written or not. -/
structure WrittenFields where
  description : Option Text := none
  type : Option Text := none
  default : Option Text := none
  sensitive : Bool := false
  rule : Option WrittenRule := none
deriving DecidableEq, Repr

namespace WrittenFields

/-- The items of a block. -/
def items (g : Margins) (w : WrittenFields) : List Item :=
  (w.description.map fun d => Item.assign "description" (quoted d)).toList ++
    (w.type.map (Item.assign "type")).toList ++ (w.default.map (Item.assign "default")).toList ++
    (if w.sensitive then [Item.assign "sensitive" "true"] else []) ++
    (w.rule.map (WrittenRule.item g)).toList

/-- The text of a block. -/
def block (g : Margins) (w : WrittenFields) : Text := bracedItems g.outer [] (w.items g)

/-- What is asked of the fields of a block. -/
structure Fits (m : BraceMode) (g : Margins) (w : WrittenFields) : Prop where
  description_line : ∀ d ∈ w.description, '\n' ∉ d
  description_quiet : ∀ d ∈ w.description, ¬ SetsField d
  type_value : ∀ t ∈ w.type, IsValue t
  default_value : ∀ v ∈ w.default, IsValue v
  rule_fits : ∀ r ∈ w.rule, r.Fits m g

instance (m : BraceMode) (g : Margins) (w : WrittenFields) : Decidable (w.Fits m g) :=
  decidable_of_iff
    ((∀ d ∈ w.description, '\n' ∉ d) ∧ (∀ d ∈ w.description, ¬ SetsField d) ∧
      (∀ t ∈ w.type, IsValue t) ∧ (∀ v ∈ w.default, IsValue v) ∧ ∀ r ∈ w.rule, r.Fits m g)
    ⟨fun h => ⟨h.1, h.2.1, h.2.2.1, h.2.2.2.1, h.2.2.2.2⟩, fun h =>
      ⟨h.description_line, h.description_quiet, h.type_value, h.default_value, h.rule_fits⟩⟩

/-- The fields that are read back. -/
def fields (g : Margins) (w : WrittenFields) : Fields where
  description := w.description.getD []
  type := w.type.getD "string"
  default := w.default
  sensitive := w.sensitive
  validation := w.rule.map (WrittenRule.validation g)

end WrittenFields

/-! ## Silent items -/

/-- An item that sets its word is silent for another word when its value is. -/
theorem silent_assign {word own value : Text} (hword : word ∈ fieldWords) (hown : own ∈ fieldWords)
    (hne : own ≠ word)
    (hvalue : ∀ rest, Unmarked rest → SetsNowhere word ('\n' :: rest) false value) :
    (Item.assign own value).Silent word where
  word_mem := hown
  other := hne
  boundary := by
    intro c hc
    obtain rfl : ' ' = c := Option.some.inj hc
    decide
  quiet := by
    intro rest hopen inWord
    have hblanks : ∀ c ∈ [' ', '=', ' '], isWord c = false := by decide
    exact setsNowhere_append (u := [' ', '=', ' '])
      (setsNowhere_of_no_word hword _ hblanks inWord) (hvalue rest hopen)

/-- A quoted text that sets no field is silent at the end of its line. -/
theorem setsNowhere_quoted {word t : Text} (hword : word ∈ fieldWords) (ht : ¬ SetsField t)
    (rest : Text) : SetsNowhere word ('\n' :: rest) false (quoted t) := by
  have hquote : ∀ c ∈ ['"'], isWord c = false := by decide
  have hopen : Unmarked ('"' :: '\n' :: rest) := rfl
  have hbody : SetsNowhere word ('"' :: '\n' :: rest) false (escape t) :=
    setsNowhere_escape hword (setsNowhere_of_not_setsField hword ht (by decide) hopen)
  refine setsNowhere_append (u := ['"']) (setsNowhere_of_no_word hword _ hquote false) ?_
  exact setsNowhere_append hbody (setsNowhere_of_no_word hword _ hquote _)

theorem setsNowhere_value {word t : Text} (hword : word ∈ fieldWords) (ht : ¬ SetsField t)
    {rest : Text} (hopen : Unmarked rest) : SetsNowhere word ('\n' :: rest) false t :=
  setsNowhere_of_not_setsField hword ht (by decide) (unmarked_newline hopen)

section Silent

variable {m : BraceMode} {g : Margins} {word : Text} (hword : word ∈ fieldWords)
include hword

/-- The items of a validation are silent for the words of others. -/
theorem WrittenRule.silent_items {r : WrittenRule} (hr : r.Fits m g) {i : Item} (hi : i ∈ r.items)
    (hne : i.word ≠ word) : i.Silent word := by
  rcases List.mem_cons.mp hi with rfl | hi
  · exact silent_assign hword (by decide) hne fun _ hopen =>
      setsNowhere_value hword hr.condition_quiet hopen
  · obtain rfl := List.mem_singleton.mp hi
    exact silent_assign hword (by decide) hne fun rest _ =>
      setsNowhere_quoted hword hr.message_quiet rest

/-- A validation is silent for the words that neither it nor its items set. -/
theorem WrittenRule.silent_item {r : WrittenRule} (hr : r.Fits m g) (hown : "validation" ≠ word)
    (hinner : ∀ i ∈ r.items, i.word ≠ word) : (r.item g).Silent word where
  word_mem := by
    show ("validation" : Text) ∈ fieldWords
    decide
  other := hown
  boundary := by
    intro c hc
    obtain rfl : ' ' = c := Option.some.inj hc
    decide
  quiet := by
    intro rest hopen inWord
    have hblank : ∀ c ∈ [' '], isWord c = false := by decide
    have hend := isWord_of_mem_closing g.closing_blank
    -- the margins hold blanks only, so a word could be set in an item alone
    have hclosing : Unmarked (g.closing ++ ['\x7d'] ++ '\n' :: rest) := by
      rw [List.append_assoc]
      exact unmarked_margin g.closing_blank rfl
    have hopening := setsNowhere_opening hword g.inner_blank
      (fun i hi => r.silent_items hword hr hi (hinner i hi)) hclosing
    have hshape : r.block g
        = ('\x7b' :: '\n' :: writeItems g.inner r.items) ++ (g.closing ++ ['\x7d']) := by
      simp [WrittenRule.block, bracedItems]
    show SetsNowhere word ('\n' :: rest) inWord ([' '] ++ r.block g)
    rw [hshape]
    exact setsNowhere_append (setsNowhere_of_no_word hword _ hblank inWord)
      (setsNowhere_append hopening (setsNowhere_of_no_word hword _ hend _))

/-! ## Silent groups of items -/

omit hword in
/-- An optional item is silent when it is silent whatever it holds. -/
theorem silent_toList {α : Type} {own : Option α} {item : α → Item}
    (h : ∀ a ∈ own, (item a).Silent word) : ∀ i ∈ (own.map item).toList, i.Silent word := by
  intro i hi
  obtain ⟨a, ha, rfl⟩ := Option.map_eq_some_iff.mp (Option.mem_toList.mp hi)
  exact h a ha

variable {w : WrittenFields} (h : w.Fits m g)

include h in
/-- The description is silent for the words of others. -/
theorem silent_description (hne : "description" ≠ word) :
    ∀ i ∈ (w.description.map fun d => Item.assign "description" (quoted d)).toList,
      i.Silent word :=
  silent_toList fun d hd => silent_assign hword (by decide) hne fun rest _ =>
    setsNowhere_quoted hword (h.description_quiet d hd) rest

include h in
/-- The type is silent for the words of others. -/
theorem silent_type (hne : "type" ≠ word) :
    ∀ i ∈ (w.type.map (Item.assign "type")).toList, i.Silent word :=
  silent_toList fun t ht => silent_assign hword (by decide) hne fun _ hopen =>
    setsNowhere_value hword (h.type_value t ht).quiet hopen

include h in
/-- The default is silent for the words of others. -/
theorem silent_default (hne : "default" ≠ word) :
    ∀ i ∈ (w.default.map (Item.assign "default")).toList, i.Silent word :=
  silent_toList fun v hv => silent_assign hword (by decide) hne fun _ hopen =>
    setsNowhere_value hword (h.default_value v hv).quiet hopen

/-- The mark of sensitive values is silent for the words of others. -/
theorem silent_sensitive (hne : "sensitive" ≠ word) (hvalue : "true" ≠ word) (sensitive : Bool) :
    ∀ i ∈ if sensitive then [Item.assign "sensitive" "true"] else [], i.Silent word := by
  cases sensitive with
  | false => simp
  | true =>
      intro i hi
      obtain rfl := List.mem_singleton.mp hi
      have htrue : ∀ c ∈ ("true" : Text), isWord c = true := by decide
      exact silent_assign hword (by decide) hne fun _ _ =>
        setsNowhere_other hword htrue hvalue (by decide) _

include h in
/-- The validation is silent for the words that it does not set. -/
theorem silent_rule (hne : "validation" ≠ word) (hcondition : "condition" ≠ word)
    (hmessage : "error_message" ≠ word) :
    ∀ i ∈ (w.rule.map (WrittenRule.item g)).toList, i.Silent word := by
  refine silent_toList fun r hr => r.silent_item hword (h.rule_fits r hr) hne ?_
  intro i hi
  rcases List.mem_cons.mp hi with rfl | hi
  · exact hcondition
  · obtain rfl := List.mem_singleton.mp hi
    exact hmessage

end Silent

/-! ## Reading one item -/

/-- Behind an assigned word comes its value. -/
theorem afterAssigned?_assign (word value rest : Text) :
    afterAssigned? word ((Item.assign word value).text ++ rest)
      = some (' ' :: (value ++ rest)) := by
  have hshape : (Item.assign word value).text ++ rest
      = word ++ ' ' :: '=' :: ' ' :: (value ++ rest) := by
    simp [Item.text, Item.assign]
  rw [hshape, afterAssigned?, dropPrefix?_append]
  rfl

/-- A quoted value is read back. -/
theorem literal?_assign (word rest : Text) {t : Text} (ht : '\n' ∉ t) :
    ((afterAssigned? word ((Item.assign word (quoted t)).text ++ rest)).bind fun r =>
      literal? (trimStart r)) = some t := by
  have hquoted : quoted t ++ rest = '"' :: escape t ++ '"' :: rest := by simp [quoted]
  rw [afterAssigned?_assign, Option.bind_some, hquoted]
  exact literal?_escape ht rest

/-- A value does not begin with a blank. -/
theorem IsValue.skipBlanks_append {t : Text} (ht : IsValue t) (rest : Text) :
    skipBlanks (t ++ rest) = t ++ rest := by
  cases t with
  | nil => exact absurd rfl ht.nonempty
  | cons c t =>
      have hc : isSpace c = false := head_of_trimmed ht.trimmed c rfl
      refine dropWhile_eq_self fun d hd => ?_
      obtain rfl : c = d := Option.some.inj hd
      cases hb : isBlank c with
      | false => rfl
      | true =>
          rw [isSpace_of_isBlank hb] at hc
          exact nomatch hc

/-- The value of a type is read back. -/
theorem expressionOf_afterType {t : Text} (ht : IsValue t) (rest : Text) :
    (afterType? ((Item.assign "type" t).text ++ '\n' :: rest)).map expressionOf = some t := by
  have hshape : (Item.assign "type" t).text ++ '\n' :: rest
      = "type" ++ ' ' :: '=' :: ' ' :: (t ++ '\n' :: rest) := by
    simp [Item.text, Item.assign]
  rw [hshape, afterType?, dropPrefix?_append, Option.bind_some]
  show some (expressionOf (skipBlanks (t ++ '\n' :: rest))) = _
  rw [ht.skipBlanks_append, expressionOf_line ht.complete ht.trimmed]

/-- The value of a default is read back. -/
theorem expressionOf_afterDefault {t : Text} (ht : IsValue t) (rest : Text) :
    (afterDefault? ((Item.assign "default" t).text ++ '\n' :: rest)).map expressionOf = some t := by
  have hshape : (Item.assign "default" t).text ++ '\n' :: rest
      = "default" ++ ' ' :: '=' :: ' ' :: (t ++ '\n' :: rest) := by
    simp [Item.text, Item.assign]
  rw [hshape, afterDefault?, dropPrefix?_append, Option.bind_some]
  show some (expressionOf (skipBlanks (t ++ '\n' :: rest))) = _
  rw [ht.skipBlanks_append, expressionOf_line ht.complete ht.trimmed]

/-- From its brace on the block of a validation is found. -/
theorem afterValidation?_item {raw : Text} (h : raw.head? = some '\x7b') (rest : Text) :
    afterValidation? ("validation" ++ ' ' :: (raw ++ rest)) = some (raw ++ rest) := by
  cases raw with
  | nil => exact nomatch h
  | cons c raw =>
      obtain rfl : c = '\x7b' := Option.some.inj h
      rw [afterValidation?, dropPrefix?_append]
      rfl

/-! ## Reading a validation -/

section Rule

variable {m : BraceMode} {g : Margins} {r : WrittenRule} (hr : r.Fits m g)
include hr

/-- The message of a validation is read back. -/
theorem literalField_rule : literalField "error_message" (r.block g) = r.errorMessage := by
  have hword : ("error_message" : Text) ∈ fieldWords := by decide
  have hne : ("condition" : Text) ≠ "error_message" := by decide
  have hbefore : ∀ i ∈ [Item.assign "condition" r.condition], i.Silent "error_message" := by
    intro i hi
    obtain rfl := List.mem_singleton.mp hi
    exact r.silent_items hword hr List.mem_cons_self hne
  have hread := literal?_assign "error_message"
    ('\n' :: writeItems g.inner [] ++ g.closing ++ ['\x7d']) hr.message_line
  rw [← List.append_assoc, ← List.append_assoc] at hread
  have hfound := findAtWordStart?_present hword g.inner_blank
    ((looksFor_afterAssigned "error_message").bind fun t => literal? (trimStart t)) hbefore hword
    hread
  rw [literalField]
  exact congrArg (Option.getD · []) hfound

/-- Behind the condition come only white space and the item of the message. -/
theorem exists_beforeMessage {rest : Text} (hrest : ∀ c ∈ rest.head?, isWord c = true)
    (hne : rest ≠ []) :
    ∃ u, trimStart (r.condition ++ '\n' :: (g.inner ++ rest)) = u ++ rest ∧
      SetsNowhere "error_message" rest false u ∧ inWordAfter false u = false ∧
      trim u = r.condition := by
  have hword : ("error_message" : Text) ∈ fieldWords := by decide
  have hspaces : ∀ c ∈ '\n' :: g.inner, isSpace c = true := by
    intro c hc
    rcases List.mem_cons.mp hc with rfl | hc
    · decide
    · exact isSpace_of_isBlank (g.inner_blank c hc)
  -- an empty condition leaves nothing but white space, and that is skipped with its line break
  cases hc : r.condition with
  | nil =>
      refine ⟨[], ?_, trivial, rfl, rfl⟩
      exact trimStart_spaces_append hspaces fun c hc => isSpace_of_isWord (hrest c hc)
  | cons c t =>
      refine ⟨c :: t ++ '\n' :: g.inner, ?_, ?_, ?_, ?_⟩
      · have hhead := head_of_trimmed hr.condition_trimmed
        rw [hc] at hhead
        rw [trimStart_eq_self (by simpa using hhead)]
        simp
      · have hopen : Unmarked (g.inner ++ rest) := by
          refine unmarked_margin g.inner_blank ?_
          cases rest with
          | nil => exact absurd rfl hne
          | cons d rest => exact unmarked_of_isWord (hrest d rfl) rest
        rw [← hc]
        exact setsNowhere_append (setsNowhere_value hword hr.condition_quiet hopen)
          (setsNowhere_of_no_word hword _ (fun d hd => isWord_of_isSpace (hspaces d hd)) _)
      · rw [inWordAfter_append]
        exact inWordAfter_of_no_word (isWord_of_mem_margin g.inner_blank)
      · rw [← hc]
        exact trim_append_spaces hr.condition_trimmed hspaces

omit hr in
/-- The text behind the condition of a validation, and what stands before the message in it. -/
theorem conditionField_of_split {block t before : Text}
    (ht : findAtWordStart? (fun t => (afterAssigned? "condition" t).map trimStart) false block
      = some t)
    (hbefore : beforeAssigned? "error_message" false t = some before) :
    conditionField block = trim before := by
  rw [conditionField, ht]
  simp only [hbefore]

/-- The condition of a validation is read back. -/
theorem conditionField_rule : conditionField (r.block g) = r.condition := by
  have hword : ("condition" : Text) ∈ fieldWords := by decide
  obtain ⟨message, hmessage⟩ : ∃ i, i = Item.assign "error_message" (quoted r.errorMessage) :=
    ⟨_, rfl⟩
  obtain ⟨rest, hrest⟩ : ∃ t, t = message.text ++ '\n' :: (g.closing ++ ['\x7d']) := ⟨_, rfl⟩
  have hset : (afterAssigned? "error_message" rest).isSome = true := by
    rw [hrest, hmessage, afterAssigned?_assign]
    rfl
  have hread : ((afterAssigned? "condition" ((Item.assign "condition" r.condition).text ++
      '\n' :: writeItems g.inner [message] ++ g.closing ++ ['\x7d'])).map trimStart)
      = some (trimStart (r.condition ++ '\n' :: (g.inner ++ rest))) := by
    have hshape : '\n' :: writeItems g.inner [message] ++ g.closing ++ ['\x7d']
        = '\n' :: (g.inner ++ rest) := by
      rw [hrest]
      simp [writeItems]
    rw [List.append_assoc, List.append_assoc, ← List.append_assoc ('\n' :: _), hshape,
      afterAssigned?_assign]
    rfl
  have hfound := findAtWordStart?_present hword g.inner_blank
    ((looksFor_afterAssigned "condition").map trimStart) (List.forall_mem_nil _) hword hread
  have hstart : ∀ c ∈ rest.head?, isWord c = true := by
    intro c hc
    rw [hrest, hmessage] at hc
    obtain rfl : 'e' = c := Option.some.inj hc
    decide
  have hne : rest ≠ [] := by
    rw [hrest]
    exact List.append_ne_nil_of_right_ne_nil _ (List.cons_ne_nil _ _)
  -- the condition is cut off before the message, where the word of the message is first set
  obtain ⟨u, hu, hnowhere, hinWord, htrim⟩ := exists_beforeMessage hr hstart hne
  rw [hu] at hfound
  have hbefore : beforeAssigned? "error_message" false (u ++ rest) = some u := by
    rw [beforeAssigned?_append hnowhere, hinWord, beforeAssigned?_here hset hne, Option.map_some,
      List.append_nil]
  have hblock : r.block g = bracedItems g.inner g.closing
      ([] ++ Item.assign "condition" r.condition :: [message]) := by
    rw [hmessage, WrittenRule.block, WrittenRule.items, List.nil_append]
  rw [hblock, conditionField_of_split hfound hbefore, htrim]

end Rule

/-! ## Reading a block -/

section Block

variable {m : BraceMode} {g : Margins} {w : WrittenFields} (h : w.Fits m g)
include h

/-- The description is read back. -/
theorem literalField_block : literalField "description" (w.block g) = w.description.getD [] := by
  have hword : ("description" : Text) ∈ fieldWords := by decide
  have hafter := List.forall_mem_append.mpr ⟨List.forall_mem_append.mpr
    ⟨List.forall_mem_append.mpr
      ⟨silent_type hword h (by decide), silent_default hword h (by decide)⟩,
      silent_sensitive hword (by decide) (by decide) w.sensitive⟩,
    silent_rule hword h (by decide) (by decide) (by decide)⟩
  have hfound := findAtWordStart?_optional hword g.outer_blank
    ((looksFor_afterAssigned "description").bind fun t => literal? (trimStart t))
    (List.forall_mem_nil _) hafter (fun _ _ => rfl)
    fun d hd rest => literal?_assign "description" ('\n' :: rest) (h.description_line d hd)
  -- the items are written in another bracketing than the search lemma has them
  rw [literalField, WrittenFields.block, WrittenFields.items]
  simp only [List.nil_append, List.append_assoc] at hfound ⊢
  rw [hfound]

/-- The type is read back, empty when none is written. -/
theorem typeField_block : typeField (w.block g) = w.type.getD [] := by
  have hword : ("type" : Text) ∈ fieldWords := by decide
  have hafter := List.forall_mem_append.mpr ⟨List.forall_mem_append.mpr
    ⟨silent_default hword h (by decide),
      silent_sensitive hword (by decide) (by decide) w.sensitive⟩,
    silent_rule hword h (by decide) (by decide) (by decide)⟩
  have hfound := findAtItemStart?_optional hword g.outer_blank
    (looksFor_afterType.map expressionOf) (silent_description hword h (by decide)) hafter
    (fun _ _ => rfl) fun t ht rest => expressionOf_afterType (h.type_value t ht) rest
  rw [typeField, WrittenFields.block, WrittenFields.items, findAtItemStart?_map]
  simp only [List.append_assoc] at hfound ⊢
  rw [hfound]

/-- The default is read back. -/
theorem defaultField_block : defaultField (w.block g) = w.default := by
  have hword : ("default" : Text) ∈ fieldWords := by decide
  have hbefore := List.forall_mem_append.mpr
    ⟨silent_description hword h (by decide), silent_type hword h (by decide)⟩
  have hafter := List.forall_mem_append.mpr
    ⟨silent_sensitive hword (by decide) (by decide) w.sensitive,
      silent_rule hword h (by decide) (by decide) (by decide)⟩
  have hfound := findAtWordStart?_optional hword g.outer_blank
    (looksFor_afterDefault.map expressionOf) hbefore hafter
    (fun _ _ => rfl) fun v hv rest => expressionOf_afterDefault (h.default_value v hv) rest
  rw [defaultField, WrittenFields.block, WrittenFields.items, findAtWordStart?_map]
  simp only [List.append_assoc] at hfound ⊢
  rw [hfound]

/-- The mark of a sensitive value is read back. -/
theorem sensitiveField_block : sensitiveField (w.block g) = w.sensitive := by
  have hword : ("sensitive" : Text) ∈ fieldWords := by decide
  have hbefore := List.forall_mem_append.mpr ⟨List.forall_mem_append.mpr
    ⟨silent_description hword h (by decide), silent_type hword h (by decide)⟩,
    silent_default hword h (by decide)⟩
  have hafter := silent_rule hword h (by decide) (by decide) (by decide)
  have hitem : ∀ a ∈ (if w.sensitive then some () else none),
      ((fun _ : Unit => Item.assign "sensitive" "true") a).word = "sensitive" := fun _ _ => rfl
  have hfound := findAtItemStart?_optional hword g.outer_blank looksFor_sensitive hbefore hafter
    hitem fun _ _ _ => rfl
  have hshape : ((if w.sensitive then some () else none).map
      fun _ : Unit => Item.assign "sensitive" "true").toList
      = if w.sensitive then [Item.assign "sensitive" "true"] else [] := by
    cases w.sensitive <;> rfl
  rw [hshape] at hfound
  rw [sensitiveField, WrittenFields.block, WrittenFields.items, hfound]
  cases w.sensitive <;> rfl

/-- Before the validation no item sets its word. -/
theorem silent_beforeRule :
    ∀ i ∈ (w.description.map fun d => Item.assign "description" (quoted d)).toList ++
      (w.type.map (Item.assign "type")).toList ++ (w.default.map (Item.assign "default")).toList ++
      (if w.sensitive then [Item.assign "sensitive" "true"] else []), i.Silent "validation" := by
  have hword : ("validation" : Text) ∈ fieldWords := by decide
  exact List.forall_mem_append.mpr ⟨List.forall_mem_append.mpr ⟨List.forall_mem_append.mpr
    ⟨silent_description hword h (by decide), silent_type hword h (by decide)⟩,
    silent_default hword h (by decide)⟩,
    silent_sensitive hword (by decide) (by decide) w.sensitive⟩

/-- The validation is read back, and reading it logs nothing. -/
theorem validationField_block :
    validationField m (w.block g) = pure (w.rule.map (WrittenRule.validation g)) := by
  have hword : ("validation" : Text) ∈ fieldWords := by decide
  rw [WrittenFields.block, WrittenFields.items]
  cases hrule : w.rule with
  | none =>
      have hfound := findAtWordStart?_absent hword g.outer_blank looksFor_afterValidation
        (silent_beforeRule h) (List.forall_mem_nil _)
      rw [Option.map_none, Option.toList_none, List.append_nil, validationField_none m hfound]
      rfl
  | some r =>
      have hr : r.Fits m g := h.rule_fits r hrule
      rw [Option.map_some, Option.toList_some]
      generalize hitems :
        (w.description.map fun d => Item.assign "description" (quoted d)).toList ++
        (w.type.map (Item.assign "type")).toList ++
        (w.default.map (Item.assign "default")).toList ++
        (if w.sensitive then [Item.assign "sensitive" "true"] else []) = before
      have hbefore : ∀ i ∈ before, i.Silent "validation" := by
        rw [← hitems]
        exact silent_beforeRule h
      have hraw := r.block_eq g
      have hread : afterValidation? ((r.item g).text ++ '\n' :: writeItems g.outer [] ++ [] ++
          ['\x7d']) = some (r.block g ++ '\n' :: ['\x7d']) := by
        have hshape : ∀ raw : Text,
            (⟨"validation", ' ' :: raw⟩ : Item).text ++ '\n' :: writeItems g.outer [] ++ ([] : Text)
              ++ ['\x7d'] = "validation" ++ ' ' :: (raw ++ '\n' :: ['\x7d']) := by
          intro raw
          simp [Item.text, writeItems]
        have hhead : (r.block g).head? = some '\x7b' := by rw [hraw]; rfl
        have hitem := congrArg afterValidation? (hshape (r.block g))
        exact hitem.trans (afterValidation?_item hhead ('\n' :: ['\x7d']))
      have hfound := findAtWordStart?_present hword g.outer_blank looksFor_afterValidation
        hbefore hword hread
      have hdrop : ∀ u v : Text, (u ++ v).drop ((u ++ v).length - v.length) = v := by
        intro u v
        simp
      -- what was found is the end of the text, so the block of the validation starts there
      have hstart : (bracedItems g.outer [] (before ++ [r.item g])).drop
          ((bracedItems g.outer [] (before ++ [r.item g])).length
            - (r.block g ++ '\n' :: ['\x7d']).length)
          = '\x7b' :: r.body g ++ '\x7d' :: '\n' :: ['\x7d'] := by
        have hconcat : bracedItems g.outer [] (before ++ [r.item g]) = _ :=
          bracedItems_concat [] before (r.item g)
        have hsplit := hconcat.trans (List.append_cons _ ' ' (r.block g ++ '\n' :: ['\x7d']))
        rw [hsplit, hdrop, hraw]
        simp
      have hextract := Block.extract_of_balanced hr.balanced hstart
      rw [← hraw] at hextract
      rw [validationField_some m hfound hextract, conditionField_rule hr, literalField_rule hr]
      rfl

/-- The fields of a written block are those it was written from, and reading them logs nothing. -/
theorem fieldsOf_block : fieldsOf m (w.block g) = pure (w.fields g) := by
  rw [fieldsOf, validationField_block h, pure_bind, literalField_block h, typeField_block h,
    defaultField_block h, sensitiveField_block h, WrittenFields.fields]
  cases htype : w.type with
  | none => rfl
  | some t =>
      have hne : t ≠ [] := (h.type_value t htype).nonempty
      simp only [Option.getD_some, if_neg hne]

end Block

/-- Every field is read back as it was written, and a field that was not written keeps its
default. -/
theorem fieldsOf_written {m : BraceMode} {g : Margins} {w : WrittenFields} (h : w.Fits m g) :
    (fieldsOf m (w.block g)).value.description = w.description.getD [] ∧
      (fieldsOf m (w.block g)).value.type = w.type.getD "string" ∧
      (fieldsOf m (w.block g)).value.default = w.default ∧
      (fieldsOf m (w.block g)).value.sensitive = w.sensitive ∧
      (fieldsOf m (w.block g)).value.validation
        = w.rule.map (fun r => ⟨r.condition, r.errorMessage, r.block g⟩) ∧
      (fieldsOf m (w.block g)).log = [] := by
  rw [fieldsOf_block h]
  exact ⟨rfl, rfl, rfl, rfl, rfl, rfl⟩

/-- A description that names other fields, a default with a brace in a string and a condition over
two lines do not mislead one another. -/
theorem fieldsOf_written_misleading :
    (fieldsOf .quoteAware (WrittenFields.block .formatted
        { description := some "the \"default\" or a\\b, type : any"
          type := some "object(\x7b\n  a = string # text\n\x7d)"
          default := some "\x7b a = \"\x7d#\" \x7d"
          sensitive := true
          rule := some ⟨"var.a != \"condition\" &&\n  var.b", "no \"\x7d\" here"⟩ })).value.default
      = some "\x7b a = \"\x7d#\" \x7d" :=
  (fieldsOf_written (by decide +kernel)).2.2.1

end ModuleDocs.Hcl
