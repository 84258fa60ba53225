import ModuleDocs.Proofs.Describe.NormalForm
import ModuleDocs.Proofs.Usage.FieldNames

/-! # The condition in place of the fields

    A group may give its trigger and its value as a condition alone.  What
    the condition states is then read as if it stood in the fields, and what
    the fields give is kept, whatever the condition states.  The condition
    that a group shows states the group's own trigger and value, so nothing
    is lost when it is all that is passed on. -/

namespace ModuleDocs

open Text

namespace Condition

/-- The condition that a variable has a value states the two. -/
theorem states_equals {name value : Text} (hname : isIdentifier name = true)
    (hvalue : '"' ∉ value) : States (equals name value) name value := by
  refine ⟨[], [], [' '], "=", [' '], [], ?_, List.forall_mem_nil _, .inl rfl, hname, by decide,
    .inl rfl, by decide, hvalue⟩
  simp [equals, literal]

end Condition

namespace UsageGroup

variable {fields : List (Text × Json)} {name value text : Text} {g : UsageGroup}

/-! ## What recovery does -/

theorem field?_fillIn_self (given : Bool) (key text : Text) (fields : List (Text × Json)) :
    Json.field? key (fillIn given key text fields)
      = if given then Json.field? key fields else some (.str text) := by
  cases given with
  | true => rfl
  | false => exact Json.field?_put_self key (.str text) fields

/-- The field for the trigger after recovery. -/
theorem field?_trigger_recoverFromCondition (fields : List (Text × Json)) :
    Json.field? "trigger" (recoverFromCondition fields)
      = if givesTrigger fields then Json.field? "trigger" fields
        else ((stated? fields).map fun found => .str found.1).or
          (Json.field? "trigger" fields) := by
  have hother : ("trigger" : Text) ≠ "value" := by decide
  rw [recoverFromCondition_eq_fillIn]
  cases stated? fields with
  | none => exact (ite_self _).symm
  | some found => exact (field?_fillIn_of_ne hother _ _).trans (field?_fillIn_self _ _ _ _)

/-- The field for the value after recovery. -/
theorem field?_value_recoverFromCondition (fields : List (Text × Json)) :
    Json.field? "value" (recoverFromCondition fields)
      = if givesValue fields then Json.field? "value" fields
        else ((stated? fields).map fun found => .str found.2).or (Json.field? "value" fields) := by
  have hother : ("value" : Text) ≠ "trigger" := by decide
  rw [recoverFromCondition_eq_fillIn]
  cases stated? fields with
  | none => exact (ite_self _).symm
  | some found =>
      have hvalue : Json.field? "value" (fillIn (givesTrigger fields) "trigger" found.1 fields)
          = Json.field? "value" fields := field?_fillIn_of_ne hother _ _
      exact (field?_fillIn_self _ _ _ _).trans (by rw [hvalue]; rfl)

/-- A text in the field for the trigger is kept unless it is empty. -/
theorem field?_trigger_of_given (h : Json.field? "trigger" fields = some (.str text))
    (hne : text ≠ []) : Json.field? "trigger" (recoverFromCondition fields) = some (.str text) := by
  have hgives : givesTrigger fields = true := by
    refine List.any_eq_true.mpr ⟨"trigger", List.mem_cons_self, ?_⟩
    rw [h, Option.map_some, Option.getD_some, Json.isTruthy_eq_decide rfl]
    exact decide_eq_true hne
  rw [field?_trigger_recoverFromCondition, if_pos hgives, h]

/-- A text in the field for the value is kept unless it is empty. -/
theorem field?_value_of_given (h : Json.field? "value" fields = some (.str text))
    (hne : text ≠ []) : Json.field? "value" (recoverFromCondition fields) = some (.str text) := by
  have hgives : givesValue fields = true := by
    refine List.any_eq_true.mpr ⟨"value", List.mem_cons_self, ?_⟩
    rw [h, isGivenValue_eq_decide rfl]
    exact decide_eq_true hne
  rw [field?_value_recoverFromCondition, if_pos hgives, h]

/-- Where no trigger is given the name that the condition states becomes the trigger. -/
theorem field?_trigger_of_stated? (h : stated? fields = some (name, value))
    (hopen : givesTrigger fields = false) :
    Json.field? "trigger" (recoverFromCondition fields) = some (.str name) := by
  rw [field?_trigger_recoverFromCondition, hopen, h]
  rfl

/-- Where no value is given the one that the condition states becomes the value. -/
theorem field?_value_of_stated? (h : stated? fields = some (name, value))
    (hopen : givesValue fields = false) :
    Json.field? "value" (recoverFromCondition fields) = some (.str value) := by
  rw [field?_value_recoverFromCondition, hopen, h]
  rfl

/-! ## What is read then -/

/-- The first name for the value counts. -/
theorem textField_value_eq (h : Json.field? "value" fields = some (.str text)) :
    textField valueKeys fields = text := by
  rw [textField, valueKeys, firstField?_cons_some h]
  rfl

/-- An object is read as a group when its trigger, recovered or not, is a text that is not blank and
its variables can be gone through. -/
theorem exists_ofJson_of_trigger (hvariables : ¬ Spoils (.obj fields))
    (htrigger : Json.field? "trigger" (recoverFromCondition fields) = some (.str text))
    (hne : trim text ≠ []) : ∃ g, ofJson (.obj fields) = .ok g ∧ g.trigger = trim text := by
  obtain ⟨texts, htexts⟩ :
      ∃ texts, ((Json.field? "variables" fields).getD .null).asTexts = .ok texts := by
    cases h : ((Json.field? "variables" fields).getD .null).asTexts with
    | ok texts => exact ⟨texts, rfl⟩
    | error kind =>
        obtain ⟨v, hv, hlacks, -⟩ := (Json.asTexts_getD_eq_error_iff _ kind).mp h
        exact absurd ⟨fields, v, rfl, hv, hlacks⟩ hvariables
  have hread := map_ofTexts? text (textField valueKeys (recoverFromCondition fields))
    (textField labelKeys (recoverFromCondition fields)) texts
  rw [if_neg hne] at hread
  obtain ⟨g, hg, htaken⟩ := Option.map_eq_some_iff.mp hread
  exact ⟨g, ofFields_eq_ok_iff.mpr ⟨texts, "trigger", .str text, htexts,
    firstField?_cons_some htrigger, hg⟩, congrArg Prod.fst htaken⟩

/-- The value of what is read is the text of the first field for it. -/
theorem value_of_ofJson (h : ofJson (.obj fields) = .ok g) :
    g.value = textField valueKeys (recoverFromCondition fields) := by
  obtain ⟨texts, key, v, -, -, hg⟩ := ofFields_eq_ok_iff.mp h
  have hread := map_ofTexts? v.asText (textField valueKeys (recoverFromCondition fields))
    (textField labelKeys (recoverFromCondition fields)) texts
  rw [hg] at hread
  split at hread
  · cases hread
  · exact congrArg Prod.snd (Option.some.inj hread)

/-- A condition alone is read as the group that it states, under itself as the label. -/
theorem ofJson_condition (h : Condition.States text name value) :
    ofJson (.obj [("condition", .str text)])
      = .ok ⟨name, value, Condition.equals name value, []⟩ := by
  have hstated : stated? [("condition", .str text)] = some (name, value) :=
    Condition.stated?_of_states h
  obtain ⟨htrim, hne⟩ := trim_stated hstated
  have hvalue := field?_value_of_stated? hstated rfl
  rw [ofJson, ofFields_eq_ok_iff]
  refine ⟨[], "trigger", .str name, rfl,
    firstField?_cons_some (field?_trigger_of_stated? hstated rfl), ?_⟩
  have hlabel : textField labelKeys (recoverFromCondition [("condition", .str text)]) = [] := by
    rw [recoverFromCondition_eq_fillIn, hstated]
    rfl
  rw [textField_value_eq hvalue, hlabel]
  exact ofTexts?_of_trimmed ⟨hne, htrim⟩ (List.forall_mem_nil _) List.nodup_nil value []

/-- A condition that equates an identifier with a quote-free value, with or without the mark of
variables, with one equals sign or two and with white space around them, is read as the group of
the two; so the condition that a group shows gives its trigger and its value back.  In an object
with other fields the condition stands for a trigger and for a value that these leave open.  A
trigger that is not blank is kept, without the white space around it, and a value that is not empty
is kept as it is, whatever the condition says. -/
theorem condition_stands_for_fields :
    (∀ condition name value, Condition.States condition name value →
      ofJson (.obj [("condition", .str condition)])
        = .ok ⟨name, value, Condition.equals name value, []⟩) ∧
    (∀ g : UsageGroup, Condition.isIdentifier g.trigger = true → '"' ∉ g.value →
      ofJson (.obj [("condition", .str g.condition)])
        = .ok ⟨g.trigger, g.value, g.condition, []⟩) ∧
    (∀ fields condition name value, ¬ Spoils (.obj fields) →
      Json.field? "condition" fields = some (.str condition) →
      Condition.States condition name value → givesTrigger fields = false →
      ∃ g, ofJson (.obj fields) = .ok g ∧ g.trigger = name ∧
        (givesValue fields = false → g.value = value)) ∧
    (∀ fields trigger, ¬ Spoils (.obj fields) →
      Json.field? "trigger" fields = some (.str trigger) → trim trigger ≠ [] →
      ∃ g, ofJson (.obj fields) = .ok g ∧ g.trigger = trim trigger) ∧
    ∀ fields value g, Json.field? "value" fields = some (.str value) → value ≠ [] →
      ofJson (.obj fields) = .ok g → g.value = value := by
  refine ⟨fun _ _ _ => ofJson_condition, ?shown, ?filled, ?trigger, ?value⟩
  case shown =>
    intro g hname hvalue
    exact ofJson_condition (Condition.states_equals hname hvalue)
  case filled =>
    intro fields condition name value hvariables hcondition hstates hopen
    have hstated := stated?_eq_some_iff.mpr ⟨condition, hcondition, hstates⟩
    obtain ⟨htrim, hne⟩ := trim_stated hstated
    obtain ⟨g, hread, htrigger⟩ := exists_ofJson_of_trigger hvariables
      (field?_trigger_of_stated? hstated hopen) (by rwa [htrim])
    refine ⟨g, hread, htrigger.trans htrim, fun hvalue => ?_⟩
    rw [value_of_ofJson hread, textField_value_eq (field?_value_of_stated? hstated hvalue)]
  case trigger =>
    intro fields trigger hvariables htrigger hne
    have hgiven : trigger ≠ [] := by
      rintro rfl
      exact hne rfl
    exact exists_ofJson_of_trigger hvariables (field?_trigger_of_given htrigger hgiven) hne
  case value =>
    intro fields value g hvalue hne hread
    rw [value_of_ofJson hread, textField_value_eq (field?_value_of_given hvalue hne)]

/-- A condition on a variable called `var` alone, one that a group shows, one beside a trigger that
is null, and one beside another trigger and value. -/
theorem condition_stands_for_fields_var :
    let condition : Text := " \tvar.var\n==  \"a b\" && c"
    let g : UsageGroup := ⟨"env-1", "", "Production", ["size"]⟩
    let unset : List (Text × Json) := [("triggerVar", .null), ("condition", .str condition)]
    let given : List (Text × Json) :=
      [("value", .str "w"), ("trigger", .str " mode "), ("condition", .str condition)]
    ofJson (.obj [("condition", .str condition)]) = .ok ⟨"var", "a b", "var = \"a b\"", []⟩ ∧
      ofJson (.obj [("condition", .str g.condition)])
        = .ok ⟨"env-1", "", "env-1 = \"\"", []⟩ ∧
      (∃ g, ofJson (.obj unset) = .ok g ∧ g.trigger = "var" ∧ g.value = "a b") ∧
      ∃ g, ofJson (.obj given) = .ok g ∧ g.trigger = "mode" ∧ g.value = "w" := by
  intro condition g unset given
  obtain ⟨halone, hshown, hfilled, htrigger, hvalue⟩ := condition_stands_for_fields
  have hstates : Condition.States condition "var" "a b" := Condition.states_of_stated? (by decide)
  refine ⟨halone _ _ _ hstates, hshown g (by decide) (by decide), ?_, ?_⟩
  · obtain ⟨read, hread, hname, hrest⟩ :=
      hfilled unset condition _ _ (@not_spoils_of_asTexts _ [] rfl) rfl hstates rfl
    exact ⟨read, hread, hname, hrest rfl⟩
  · obtain ⟨read, hread, hname⟩ :=
      htrigger given " mode " (@not_spoils_of_asTexts _ [] rfl) rfl (by decide)
    exact ⟨read, hread, hname, hvalue given "w" read rfl (by decide) hread⟩

end UsageGroup

end ModuleDocs
