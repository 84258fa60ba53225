import ModuleDocs.Proofs.Describe.KeptGroups
import ModuleDocs.Proofs.Usage.StatedConditions

/-! # Fields of several names

    The trigger and the value of a group may each stand under three names,
    and the condition may state them too.  A blank text says nothing, so the
    trigger meant is the first one that is not blank, and the condition's
    when all are; in the same way the value.  Reading asks two questions
    instead: does any name hold a text, so that the condition is not needed,
    and which name does the object have first.  The answers belong to
    different names when a blank text stands before another one, and only
    then something else is read than is meant. -/

namespace ModuleDocs

open Text

namespace Json

/-- Whether a value is a text or null, which stands for no text. -/
def isOptionalText : Json → Bool
  | null => true
  | str _ => true
  | _ => false

/-- Whether a value is a list. -/
def isList : Json → Bool
  | arr _ => true
  | _ => false

/-- A value that may be a text is truthy exactly when its text is not empty. -/
theorem isTruthy_eq_decide {v : Json} (h : v.isOptionalText = true) :
    v.isTruthy = decide (v.asText ≠ []) := by
  cases v with
  | null => rfl
  | str t => cases t <;> rfl
  | _ => exact nomatch h

end Json

namespace UsageGroup

variable {keys : List Text} {fields fields' : List (Text × Json)}

/-! ## What the fields say -/

/-- The text under a key, empty when the object has no such field or null in it. -/
def fieldText (fields : List (Text × Json)) (key : Text) : Text :=
  ((Json.field? key fields).getD .null).asText

/-- The name and the value that the condition of an object states. -/
def stated? (fields : List (Text × Json)) : Option (Text × Text) :=
  match Json.field? "condition" fields with
  | some (.str condition) => Condition.stated? condition
  | _ => none

/-- The first of the texts under several keys that is not empty once it is cleaned. -/
def firstText? (clean : Text → Text) (keys : List Text) (fields : List (Text × Json)) :
    Option Text :=
  (keys.map fun key => clean (fieldText fields key)).find? (· ≠ [])

/-- The trigger that is meant: the first one that is not blank, else the one of the condition. -/
def meantTrigger? (fields : List (Text × Json)) : Option Text :=
  (firstText? trim triggerKeys fields).or ((stated? fields).map (·.1))

/-- The value that is meant: the first one that is not empty, else the one of the condition. -/
def meantValue (fields : List (Text × Json)) : Text :=
  ((firstText? id valueKeys fields).or ((stated? fields).map (·.2))).getD []

/-- The trigger and the value that are meant, when there is a trigger. -/
def meant? (fields : List (Text × Json)) : Option (Text × Text) :=
  (meantTrigger? fields).map fun trigger => (trigger, meantValue fields)

/-- The trigger and the value of the group that an object is read as. -/
def read? (fields : List (Text × Json)) : Option (Text × Text) :=
  (own? (.obj fields)).map fun g => (g.trigger, g.value)

/-- An object whose trigger and value are texts under all their names, as far as they are given, and
whose variables are a list. -/
def HoldsTexts (fields : List (Text × Json)) : Prop :=
  (∀ key ∈ triggerKeys ++ valueKeys, ∀ v ∈ Json.field? key fields, v.isOptionalText = true) ∧
    ∀ v ∈ Json.field? "variables" fields, v.isList = true

instance : DecidablePred HoldsTexts := fun _ => inferInstanceAs (Decidable (_ ∧ _))

/-- Whether one of several keys holds a text. -/
def Gives (keys : List Text) (fields : List (Text × Json)) : Prop :=
  ∃ key ∈ keys, fieldText fields key ≠ []

instance : Decidable (Gives keys fields) :=
  inferInstanceAs (Decidable (∃ key ∈ keys, fieldText fields key ≠ []))

/-- A trigger is meant, but behind the blank text that the object has first under its names. -/
def HidesTrigger (fields : List (Text × Json)) : Prop :=
  Gives triggerKeys fields ∧ trim (textField triggerKeys fields) = [] ∧ meantTrigger? fields ≠ none

instance : DecidablePred HidesTrigger := fun _ => inferInstanceAs (Decidable (_ ∧ _))

/-- A value is given, but behind the empty text that the object has first under its names. -/
def HidesValue (fields : List (Text × Json)) : Prop :=
  Gives valueKeys fields ∧ textField valueKeys fields = []

instance : DecidablePred HidesValue := fun _ => inferInstanceAs (Decidable (_ ∧ _))

/-! ## The first field and the first text -/

/-- Only the fields under the keys themselves count. -/
theorem firstField?_congr (h : ∀ key ∈ keys, Json.field? key fields = Json.field? key fields') :
    firstField? keys fields = firstField? keys fields' := by
  induction keys with
  | nil => rfl
  | cons key keys ih =>
      obtain ⟨hkey, hkeys⟩ := List.forall_mem_cons.mp h
      have hrest := ih hkeys
      simp only [firstField?] at hrest
      simp only [firstField?, List.findSome?_cons, hkey, hrest]

/-- An object that holds a text under one of the keys has a first field. -/
theorem exists_firstField? (h : Gives keys fields) :
    ∃ found, firstField? keys fields = some found := by
  obtain ⟨key, hkey, hne⟩ := h
  refine Option.ne_none_iff_exists'.mp fun hnone => hne ?_
  have hfield := List.findSome?_eq_none_iff.mp hnone key hkey
  rw [Option.map_eq_none_iff] at hfield
  rw [fieldText, hfield]
  rfl

theorem firstField?_cons_some {key : Text} {v : Json} (h : Json.field? key fields = some v) :
    firstField? (key :: keys) fields = some (key, v) := by
  simp [firstField?, h]

theorem firstField?_cons_none {key : Text} (h : Json.field? key fields = none) :
    firstField? (key :: keys) fields = firstField? keys fields := by
  simp [firstField?, h]

/-- Where no key holds a text, the text of the first field is empty. -/
theorem textField_eq_nil (h : ¬ Gives keys fields) : textField keys fields = [] := by
  induction keys with
  | nil => rfl
  | cons key keys ih =>
      have hkey : fieldText fields key = [] := by
        by_contra hne
        exact h ⟨key, List.mem_cons_self, hne⟩
      cases hfield : Json.field? key fields with
      | none =>
          rw [textField, firstField?_cons_none hfield]
          exact ih fun ⟨other, hother, hne⟩ => h ⟨other, List.mem_cons_of_mem key hother, hne⟩
      | some v =>
          rw [fieldText, hfield] at hkey
          rw [textField, firstField?_cons_some hfield]
          exact hkey

/-- When the first field is not blank, it has the first text that is not. -/
theorem firstText?_eq_some {clean : Text → Text} (hclean : clean [] = [])
    (h : clean (textField keys fields) ≠ []) :
    firstText? clean keys fields = some (clean (textField keys fields)) := by
  induction keys with
  | nil => exact absurd hclean h
  | cons key keys ih =>
      rw [firstText?, List.map_cons]
      cases hfield : Json.field? key fields with
      | none =>
          have htext : textField (key :: keys) fields = textField keys fields := by
            rw [textField, firstField?_cons_none hfield, textField]
          have hblank : clean (fieldText fields key) = [] := by
            rw [fieldText, hfield]
            exact hclean
          -- a missing field is blank, so both searches pass it over
          rw [htext] at h ⊢
          rw [List.find?_cons_of_neg (by simp [hblank])]
          exact ih h
      | some v =>
          have htext : textField (key :: keys) fields = fieldText fields key := by
            rw [textField, firstField?_cons_some hfield, fieldText, hfield]
            rfl
          rw [htext] at h ⊢
          rw [List.find?_cons_of_pos (by simpa using h)]

theorem firstText?_eq_none_iff {clean : Text → Text} :
    firstText? clean keys fields = none ↔ ∀ key ∈ keys, clean (fieldText fields key) = [] := by
  simp [firstText?]

/-- Where no key holds a text there is no first text. -/
theorem firstText?_eq_none {clean : Text → Text} (hclean : clean [] = [])
    (h : ¬ Gives keys fields) : firstText? clean keys fields = none := by
  refine firstText?_eq_none_iff.mpr fun key hkey => ?_
  have hempty : fieldText fields key = [] := by
    by_contra hne
    exact h ⟨key, hkey, hne⟩
  rw [hempty, hclean]

/-- A text that some key holds is found, one that is not empty. -/
theorem exists_firstText? (h : Gives keys fields) :
    ∃ text, firstText? id keys fields = some text ∧ text ≠ [] := by
  obtain ⟨key, hkey, hne⟩ := h
  obtain ⟨text, hfound⟩ := Option.isSome_iff_exists.mp
    (List.find?_isSome.mpr ⟨_, List.mem_map_of_mem hkey, by simpa using hne⟩ :
      (firstText? id keys fields).isSome = true)
  exact ⟨text, hfound, by simpa using List.find?_some hfound⟩

/-! ## Recovery from the condition -/

/-- A field that is filled in with a text unless it is given. -/
def fillIn (given : Bool) (key text : Text) (fields : List (Text × Json)) : List (Text × Json) :=
  if given then fields else Json.put key (.str text) fields

theorem field?_fillIn_of_ne {key other : Text} (h : other ≠ key) (given : Bool) (text : Text) :
    Json.field? other (fillIn given key text fields) = Json.field? other fields := by
  cases given with
  | true => rfl
  | false => exact Json.field?_put_of_ne h _ fields

/-- The text that is filled in under the first of several keys is the one that counts. -/
theorem textField_fillIn {key : Text} (given : Bool) (text : Text) :
    textField (key :: keys) (fillIn given key text fields)
      = if given then textField (key :: keys) fields else text := by
  cases given with
  | true => rfl
  | false =>
      have hput : Json.field? key (fillIn false key text fields) = some (.str text) :=
        Json.field?_put_self key (.str text) fields
      rw [textField, firstField?_cons_some hput]
      rfl

/-- Whether one of several keys holds a text can be asked of their fields, if a missing field holds
none and of others the text counts. -/
theorem any_eq_decide_gives (given : Option Json → Bool) (hnone : given none = false)
    (hsome : ∀ v : Json, v.isOptionalText = true → given (some v) = decide (v.asText ≠ []))
    (h : ∀ key ∈ keys, ∀ v ∈ Json.field? key fields, v.isOptionalText = true) :
    (keys.any fun key => given (Json.field? key fields)) = decide (Gives keys fields) := by
  have hkey : ∀ key ∈ keys,
      (given (Json.field? key fields) = true ↔ fieldText fields key ≠ []) := by
    intro key hkey
    cases hfield : Json.field? key fields with
    | none => simp [fieldText, hfield, hnone, Json.asText]
    | some v => simp [fieldText, hfield, hsome v (h key hkey v hfield)]
  rw [Bool.eq_iff_iff, List.any_eq_true, decide_eq_true_iff]
  exact exists_congr fun key => and_congr_right (hkey key)

/-- A text counts as a value exactly when it is not empty. -/
theorem isGivenValue_eq_decide {v : Json} (h : v.isOptionalText = true) :
    isGivenValue (some v) = decide (v.asText ≠ []) := by
  cases v with
  | null => rfl
  | str t => cases t <;> rfl
  | _ => exact nomatch h

/-- Whether one of the fields for the trigger counts as given. -/
def givesTrigger (fields : List (Text × Json)) : Bool :=
  triggerKeys.any fun key => ((Json.field? key fields).map Json.isTruthy).getD false

/-- Whether one of the fields for the value counts as given. -/
def givesValue (fields : List (Text × Json)) : Bool :=
  valueKeys.any fun key => isGivenValue (Json.field? key fields)

/-- What the condition states is filled in for the trigger and for the value, each unless it is
given. -/
theorem recoverFromCondition_eq_fillIn (fields : List (Text × Json)) :
    recoverFromCondition fields
      = match stated? fields with
        | none => fields
        | some (name, value) =>
          fillIn (givesValue fields) "value" value
            (fillIn (givesTrigger fields) "trigger" name fields) := by
  rw [recoverFromCondition, stated?]
  rfl

/-- Recovery fills in a trigger and a value where the object gives none and the condition does. -/
theorem recoverFromCondition_eq (h : HoldsTexts fields) :
    recoverFromCondition fields
      = match stated? fields with
        | none => fields
        | some (trigger, value) =>
          fillIn (decide (Gives valueKeys fields)) "value" value
            (fillIn (decide (Gives triggerKeys fields)) "trigger" trigger fields) := by
  have htrigger : givesTrigger fields = decide (Gives triggerKeys fields) :=
    any_eq_decide_gives (fun field => (field.map Json.isTruthy).getD false) rfl
      (fun _ => Json.isTruthy_eq_decide) fun key hkey => h.1 key (List.mem_append_left _ hkey)
  have hvalue : givesValue fields = decide (Gives valueKeys fields) :=
    any_eq_decide_gives isGivenValue rfl (fun _ => isGivenValue_eq_decide)
      fun key hkey => h.1 key (List.mem_append_right _ hkey)
  rw [recoverFromCondition_eq_fillIn, htrigger, hvalue]

/-- What is read under several keys, if the condition states a text for them. -/
def chosen (keys : List Text) (fields : List (Text × Json)) (stated : Option Text) : Text :=
  if Gives keys fields then textField keys fields else stated.getD []

theorem chosen_none : chosen keys fields none = textField keys fields := by
  rw [chosen]
  split
  · rfl
  · next h => exact (textField_eq_nil h).symm

/-- The value that the condition states does not matter for the first field for the trigger. -/
theorem firstField?_trigger (h : HoldsTexts fields) {found : Text × Text}
    (hstated : stated? fields = some found) :
    firstField? triggerKeys (recoverFromCondition fields)
      = firstField? triggerKeys
          (fillIn (decide (Gives triggerKeys fields)) "trigger" found.1 fields) := by
  have hother : ∀ key ∈ triggerKeys, key ≠ "value" := by decide
  rw [recoverFromCondition_eq h, hstated]
  exact firstField?_congr fun key hkey => field?_fillIn_of_ne (hother key hkey) _ _

/-- The text that is read as the trigger. -/
theorem textField_trigger (h : HoldsTexts fields) :
    textField triggerKeys (recoverFromCondition fields)
      = chosen triggerKeys fields ((stated? fields).map (·.1)) := by
  cases hstated : stated? fields with
  | none =>
      rw [recoverFromCondition_eq h, hstated]
      exact chosen_none.symm
  | some found =>
      rw [textField, firstField?_trigger h hstated, ← textField, triggerKeys, textField_fillIn,
        ← triggerKeys, chosen]
      simp

/-- The text that is read as the value. -/
theorem textField_value (h : HoldsTexts fields) :
    textField valueKeys (recoverFromCondition fields)
      = chosen valueKeys fields ((stated? fields).map (·.2)) := by
  rw [recoverFromCondition_eq h]
  cases stated? fields with
  | none => exact chosen_none.symm
  | some found =>
      have hother : ∀ key ∈ valueKeys, key ≠ "trigger" := by decide
      have htext : textField valueKeys (fillIn (decide (Gives triggerKeys fields)) "trigger"
          found.1 fields) = textField valueKeys fields := by
        rw [textField, firstField?_congr fun key hkey =>
          field?_fillIn_of_ne (hother key hkey) _ found.1, textField]
      rw [valueKeys] at htext ⊢
      rw [textField_fillIn, htext, ← valueKeys, chosen]
      simp

/-! ## What is read and what is meant -/

/-- The trigger that is read, blank when the object is rejected. -/
def takenTrigger (fields : List (Text × Json)) : Text :=
  trim (chosen triggerKeys fields ((stated? fields).map (·.1)))

/-- The value that is read. -/
def takenValue (fields : List (Text × Json)) : Text :=
  chosen valueKeys fields ((stated? fields).map (·.2))

/-- The group that the first field for the trigger makes with the other texts. -/
def ofFirst (first? : Option (Text × Json)) (value label : Text) (needed : List Text) :
    Except GroupError UsageGroup :=
  match first? with
  | none => .error (.invalid [⟨.missing, [.field "trigger"]⟩])
  | some (key, trigger) =>
    match ofTexts? trigger.asText value label needed with
    | some g => .ok g
    | none => .error (.invalid [⟨.rejected "trigger name must not be empty", [.field key]⟩])

/-- An object with a list of variables is read by the first of its fields for the trigger. -/
theorem exists_ofFields_eq (h : HoldsTexts fields) :
    ∃ needed, ofFields fields
      = ofFirst (firstField? triggerKeys (recoverFromCondition fields)) (takenValue fields)
          (textField labelKeys fields) needed := by
  -- recovery leaves the variables and the label alone
  have hvariables : Json.field? "variables" (recoverFromCondition fields)
      = Json.field? "variables" fields :=
    field?_recoverFromCondition (by decide) (by decide) fields
  have hlabel : textField labelKeys (recoverFromCondition fields) = textField labelKeys fields := by
    have hnames : ∀ key ∈ labelKeys, key ≠ "trigger" ∧ key ≠ "value" := by decide
    rw [textField, firstField?_congr fun key hkey =>
      field?_recoverFromCondition (hnames key hkey).1 (hnames key hkey).2 fields, ← textField]
  obtain ⟨needed, hneeded⟩ :
      ∃ needed, ((Json.field? "variables" fields).getD .null).asTexts = .ok needed := by
    cases hfield : Json.field? "variables" fields with
    | none => exact ⟨[], rfl⟩
    | some v =>
        have hlist := h.2 v hfield
        cases v with
        | arr items => exact ⟨items.map Json.asText, rfl⟩
        | _ => exact nomatch hlist
  refine ⟨needed, ?_⟩
  rw [ofFields, takenValue, ← textField_value h, ← hlabel]
  simp only [hvariables, hneeded]
  rfl

/-- Of the texts that make a group, the trigger is trimmed and must not be blank, and the value is
kept. -/
theorem map_ofTexts? (trigger value label : Text) (needed : List Text) :
    (ofTexts? trigger value label needed).map (fun g => (g.trigger, g.value))
      = if trim trigger = [] then none else some (trim trigger, value) := by
  rw [ofTexts?]
  dsimp only
  split <;> rfl

/-- The trigger and the value that are taken are read, unless the trigger is blank. -/
theorem read?_eq (h : HoldsTexts fields) :
    read? fields
      = if takenTrigger fields = [] then none
        else some (takenTrigger fields, takenValue fields) := by
  obtain ⟨needed, hread⟩ := exists_ofFields_eq h
  rw [takenTrigger, ← textField_trigger h, read?, own?, ofJson, hread]
  cases hfirst : firstField? triggerKeys (recoverFromCondition fields) with
  | none =>
      have hempty : trim (textField triggerKeys (recoverFromCondition fields)) = [] := by
        rw [textField, hfirst]
        rfl
      rw [if_pos hempty]
      rfl
  | some found =>
      obtain ⟨key, trigger⟩ := found
      have htext : textField triggerKeys (recoverFromCondition fields) = trigger.asText := by
        rw [textField, hfirst]
        rfl
      rw [htext, ← map_ofTexts? trigger.asText (takenValue fields) (textField labelKeys fields)
        needed, ofFirst]
      cases ofTexts? trigger.asText (takenValue fields) (textField labelKeys fields) needed <;> rfl

/-- A name that the condition states is an identifier, so it is no blank. -/
theorem trim_stated {name value : Text} (h : stated? fields = some (name, value)) :
    trim name = name ∧ name ≠ [] := by
  rw [stated?] at h
  split at h
  · obtain ⟨-, -, -, -, -, -, -, -, -, hname, -⟩ := Condition.states_of_stated? h
    exact ⟨Condition.trim_identifier hname, by rintro rfl; exact nomatch hname⟩
  · cases h

/-- The trigger that is meant is the one taken, unless it is hidden. -/
theorem meantTrigger?_eq (h : ¬ HidesTrigger fields) :
    meantTrigger? fields
      = if takenTrigger fields = [] then none else some (takenTrigger fields) := by
  rw [takenTrigger, chosen]
  by_cases hgives : Gives triggerKeys fields
  · rw [if_pos hgives]
    by_cases hblank : trim (textField triggerKeys fields) = []
    · rw [if_pos hblank]
      by_contra hmeant
      exact h ⟨hgives, hblank, hmeant⟩
    · rw [if_neg hblank, meantTrigger?, firstText?_eq_some rfl hblank, Option.some_or]
  · -- no field for the trigger holds a text, so the condition's name is filled in
    rw [if_neg hgives, meantTrigger?, firstText?_eq_none rfl hgives, Option.none_or]
    cases hstated : stated? fields with
    | none => rfl
    | some found =>
        obtain ⟨htrim, hne⟩ := trim_stated hstated
        rw [Option.map_some, Option.getD_some, htrim, if_neg hne]

theorem takenTrigger_eq_nil (h : HidesTrigger fields) : takenTrigger fields = [] := by
  rw [takenTrigger, chosen, if_pos h.1]
  exact h.2.1

/-- The value that is taken is the one meant, unless it is hidden. -/
theorem takenValue_eq (h : ¬ HidesValue fields) : takenValue fields = meantValue fields := by
  rw [takenValue, chosen, meantValue]
  by_cases hgives : Gives valueKeys fields
  · rw [if_pos hgives, firstText?_eq_some rfl fun hempty => h ⟨hgives, hempty⟩]
    rfl
  · rw [if_neg hgives, firstText?_eq_none rfl hgives, Option.none_or]

/-- Where the value is hidden an empty one is taken, and another one meant. -/
theorem takenValue_eq_nil (h : HidesValue fields) :
    takenValue fields = [] ∧ meantValue fields ≠ [] := by
  obtain ⟨text, hfirst, hne⟩ := exists_firstText? h.1
  constructor
  · rw [takenValue, chosen, if_pos h.1]
    exact h.2
  · rw [meantValue, hfirst, Option.some_or, Option.getD_some]
    exact hne

/-- What is read is what is meant exactly when no blank text hides it. -/
theorem read?_eq_meant?_iff (h : HoldsTexts fields) :
    read? fields = meant? fields
      ↔ ¬ HidesTrigger fields ∧ (meantTrigger? fields ≠ none → ¬ HidesValue fields) := by
  rw [read?_eq h, meant?]
  by_cases htrigger : HidesTrigger fields
  · obtain ⟨trigger, hmeant⟩ := Option.ne_none_iff_exists'.mp htrigger.2.2
    simp [takenTrigger_eq_nil htrigger, hmeant, htrigger]
  · rw [meantTrigger?_eq htrigger]
    by_cases hblank : takenTrigger fields = []
    · simp [hblank, htrigger]
    · by_cases hvalue : HidesValue fields
      · obtain ⟨hempty, hne⟩ := takenValue_eq_nil hvalue
        simp [hblank, htrigger, hvalue, hempty, hne.symm]
      · simp [hblank, htrigger, hvalue, takenValue_eq hvalue]

/-- Where the trigger is hidden the object is rejected, for the field that hides it. -/
theorem ofFields_of_hidesTrigger (h : HoldsTexts fields) (hhides : HidesTrigger fields) :
    ∃ key v, firstField? triggerKeys fields = some (key, v) ∧ ofFields fields
      = .error (.invalid [⟨.rejected "trigger name must not be empty", [.field key]⟩]) := by
  obtain ⟨hgives, hblank, -⟩ := hhides
  obtain ⟨⟨key, v⟩, hfirst⟩ := exists_firstField? hgives
  -- a text for the trigger is given, if not first, so the condition's name is not filled in
  have hkept : firstField? triggerKeys (recoverFromCondition fields)
      = firstField? triggerKeys fields := by
    cases hstated : stated? fields with
    | none => rw [recoverFromCondition_eq h, hstated]
    | some found =>
        rw [firstField?_trigger h hstated, decide_eq_true hgives]
        rfl
  have htrim : trim v.asText = [] := by
    rw [textField, hfirst] at hblank
    exact hblank
  obtain ⟨needed, hread⟩ := exists_ofFields_eq h
  have hnone :
      ofTexts? v.asText (takenValue fields) (textField labelKeys fields) needed = none := by
    rw [← Option.map_eq_none_iff (f := fun g => (g.trigger, g.value)), map_ofTexts?, if_pos htrim]
  refine ⟨key, v, hfirst, ?_⟩
  rw [hread, hkept, hfirst, ofFirst, hnone]

/-- The condition of an object states what its text does. -/
theorem stated?_eq_some_iff {name value : Text} :
    stated? fields = some (name, value) ↔
      ∃ condition, Json.field? "condition" fields = some (.str condition) ∧
        Condition.States condition name value := by
  rw [stated?]
  split
  · next condition hcondition =>
      rw [Condition.stated?_eq_some_iff]
      constructor
      · exact fun h => ⟨condition, hcondition, h⟩
      · rintro ⟨other, hother, h⟩
        obtain rfl : condition = other :=
          Json.str.inj (Option.some.inj (hcondition.symm.trans hother))
        exact h
  · next hcondition =>
      constructor
      · exact nofun
      · rintro ⟨condition, hother, -⟩
        exact absurd hother (hcondition condition)

/-- A trigger is meant exactly when one of its fields is not blank or the condition states one. -/
theorem meantTrigger?_ne_none_iff :
    meantTrigger? fields ≠ none ↔
      (∃ key ∈ triggerKeys, trim (fieldText fields key) ≠ []) ∨
        ∃ name value, stated? fields = some (name, value) := by
  have hstated : stated? fields ≠ none ↔ ∃ name value, stated? fields = some (name, value) := by
    rw [Option.ne_none_iff_exists', Prod.exists]
  rw [← hstated, meantTrigger?, Ne, Option.or_eq_none_iff, firstText?_eq_none_iff,
    Option.map_eq_none_iff, not_and_or]
  simp

/-- For an object whose trigger and value are texts under all their names, as far as they are given,
and whose variables are a list: a trigger is meant exactly when one of its three fields is not blank
or the condition begins with an equation; the trigger is then the first that is not blank, trimmed,
else the name of the equation, and the value the first that is not empty, else the one of the
equation, else empty.  This is what is read exactly when no blank text under an earlier name hides
it.  A blank text that comes first under the names of the trigger rejects the object although
another name, or the condition, gives a trigger, and an empty text that comes first under the names
of the value is read although another name gives one. -/
theorem reads_meant_unless_hidden (h : HoldsTexts fields) :
    (∀ name value, stated? fields = some (name, value) ↔
      ∃ condition, Json.field? "condition" fields = some (.str condition) ∧
        Condition.States condition name value) ∧
    (meantTrigger? fields ≠ none ↔
      (∃ key ∈ triggerKeys, trim (fieldText fields key) ≠ []) ∨
        ∃ name value, stated? fields = some (name, value)) ∧
    (read? fields = meant? fields
      ↔ ¬ HidesTrigger fields ∧ (meantTrigger? fields ≠ none → ¬ HidesValue fields)) ∧
    (HidesTrigger fields → ∃ key v, firstField? triggerKeys fields = some (key, v) ∧
      ofFields fields
        = .error (.invalid [⟨.rejected "trigger name must not be empty", [.field key]⟩])) ∧
    (¬ HidesTrigger fields → HidesValue fields →
      read? fields = (meantTrigger? fields).map fun trigger => (trigger, [])) := by
  refine ⟨fun _ _ => stated?_eq_some_iff, meantTrigger?_ne_none_iff, read?_eq_meant?_iff h,
    ofFields_of_hidesTrigger h, ?_⟩
  intro htrigger hvalue
  rw [read?_eq h, (takenValue_eq_nil hvalue).1, meantTrigger?_eq htrigger]
  split <;> rfl

/-- A blank trigger before another one and an empty value before another one hide what is meant, and
behind it they do not. -/
theorem reads_meant_unless_hidden_blank :
    let condition : Text × Json := ("condition", .str "c = \"v\"")
    let trigger : List (Text × Json) := [("trigger", .str ""), ("triggerVar", .str "x"), condition]
    let value : List (Text × Json) :=
      [("trigger", .str "x"), ("value", .null), ("triggerValue", .str "w"), condition]
    let shown : List (Text × Json) :=
      [("triggerVar", .str " x "), ("trigger_var", .str ""), ("trigger_value", .null), condition]
    (HoldsTexts trigger ∧ meant? trigger = some (['x'], ['v']) ∧ ofFields trigger
      = .error (.invalid [⟨.rejected "trigger name must not be empty", [.field "trigger"]⟩])) ∧
    (HoldsTexts value ∧ meant? value = some (['x'], ['w']) ∧ read? value = some (['x'], [])) ∧
    HoldsTexts shown ∧ meant? shown = some (['x'], ['v']) ∧ read? shown = meant? shown := by
  intro condition trigger value shown
  have htrigger : HoldsTexts trigger := by decide
  have hvalue : HoldsTexts value := by decide
  have hshown : HoldsTexts shown := by decide
  obtain ⟨-, -, -, hrejected, -⟩ := reads_meant_unless_hidden htrigger
  obtain ⟨-, -, -, -, hemptied⟩ := reads_meant_unless_hidden hvalue
  obtain ⟨-, -, hagrees, -⟩ := reads_meant_unless_hidden hshown
  refine ⟨⟨htrigger, by decide, ?_⟩, ⟨hvalue, by decide, ?_⟩, hshown, by decide, ?_⟩
  · obtain ⟨key, v, hfirst, hread⟩ := hrejected (by decide)
    have hkey : firstField? triggerKeys trigger = some ("trigger".toList, .str []) := rfl
    obtain ⟨rfl, rfl⟩ := Prod.mk.inj (Option.some.inj (hkey.symm.trans hfirst))
    exact hread
  · rw [hemptied (by decide) (by decide)]
    decide
  · exact hagrees.mpr ⟨by decide, fun _ => by decide⟩

end UsageGroup

end ModuleDocs
