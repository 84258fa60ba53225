import Mathlib
import ModuleDocs.Describe.Reply

/-! # Which replies fail in an unexpected way

    Text that is not JSON, and JSON that is not an object, are errors that a
    reply is expected to have.  Other errors come from two places.  The
    reader gives up on an integer with too many digits and on values nested
    too deeply.  And where a list of texts is wanted, a number or a truth
    value has no items to go through: in the features, and in the variables
    of a usage group, where the whole reply is lost and not only the group.

    Everything else, of whatever kind and in whatever place, is read. -/

namespace ModuleDocs

/-- What is done with a result leaves an error as it is. -/
theorem Logged.exists_error_map {ε α β : Type} (f : α → β) (r : Logged (Except ε α)) :
    (∃ e, ((Except.map f) <$> r).value = .error e) ↔ ∃ e, r.value = .error e := by
  have hvalue : ((Except.map f) <$> r).value = r.value.map f := rfl
  rw [hvalue]
  cases r.value with
  | ok a => simp [Except.map]
  | error e => simp [Except.map]

/-! ## Values without items -/

/-- Whether a value has no items and is no text either: a number or a truth value. -/
def Json.lacksItems : Json → Bool
  | bool _ => true
  | int _ => true
  | float _ => true
  | _ => false

/-- Exactly the values without items are not read as texts, and the error names their kind. -/
theorem Json.asTexts_eq_error_iff (v : Json) (kind : Text) :
    v.asTexts = .error kind ↔ v.lacksItems = true ∧ v.kind = kind := by
  cases v <;> simp [asTexts, lacksItems]

/-- A missing field is read as no texts at all. -/
theorem Json.asTexts_getD_eq_error_iff (field : Option Json) (kind : Text) :
    (field.getD .null).asTexts = .error kind ↔
      ∃ v, field = some v ∧ v.lacksItems = true ∧ v.kind = kind := by
  cases field with
  | none => simp [asTexts]
  | some v => simpa using asTexts_eq_error_iff v kind

/-- A field that is read as texts does not lack items. -/
theorem Json.not_lacksItems_of_asTexts {field : Option Json} {texts : List Text}
    (h : (field.getD .null).asTexts = .ok texts) : ¬ ∃ v, field = some v ∧ v.lacksItems = true := by
  rintro ⟨v, hv, hlacks⟩
  have herror := (asTexts_getD_eq_error_iff field v.kind).mpr ⟨v, hv, hlacks, rfl⟩
  exact nomatch h.symm.trans herror

/-! ## Groups -/

namespace UsageGroup

/-- A field besides trigger and value is left alone when these are recovered. -/
theorem field?_recoverFromCondition {key : Text} (htrigger : key ≠ "trigger")
    (hvalue : key ≠ "value") (fields : List (Text × Json)) :
    Json.field? key (recoverFromCondition fields) = Json.field? key fields := by
  have hput : ∀ {other : Text} (given : Bool) (v : Json) (fields : List (Text × Json)),
      key ≠ other →
      Json.field? key (if given then fields else Json.put other v fields)
        = Json.field? key fields := by
    intro other given v fields hne
    cases given with
    | true => rfl
    | false => exact Json.field?_put_of_ne hne v fields
  rw [recoverFromCondition]
  split
  · rfl
  · exact (hput _ _ _ hvalue).trans (hput _ _ _ htrigger)

/-- What reading the fields of an object gives: the group of the texts that stand for the variables
and of the texts in the fields for trigger, value and label, with what a condition gives filled
in. -/
theorem ofFields_eq_ok_iff {fields : List (Text × Json)} {g : UsageGroup} :
    ofFields fields = .ok g ↔ ∃ texts key v,
      ((Json.field? "variables" fields).getD .null).asTexts = .ok texts ∧
      firstField? triggerKeys (recoverFromCondition fields) = some (key, v) ∧
      ofTexts? v.asText (textField valueKeys (recoverFromCondition fields))
        (textField labelKeys (recoverFromCondition fields)) texts = some g := by
  -- what a condition gives is put into other fields than the variables
  have hvariables : Json.field? "variables" (recoverFromCondition fields)
      = Json.field? "variables" fields :=
    field?_recoverFromCondition (by decide) (by decide) fields
  rw [ofFields]
  simp only [hvariables]
  cases ((Json.field? "variables" fields).getD .null).asTexts with
  | error kind => simp
  | ok texts =>
      cases firstField? triggerKeys (recoverFromCondition fields) with
      | none => simp
      | some found =>
          obtain ⟨key, v⟩ := found
          dsimp only
          split
          · next g' hg => simp [hg]
          · next hnone => simp [hnone]

/-- The first of two fields is the second one where the object does not have the first. -/
theorem map_firstField? (key other : Text) (fields : List (Text × Json)) :
    (firstField? [key, other] fields).map (·.2)
      = (Json.field? key fields).or (Json.field? other fields) := by
  cases hkey : Json.field? key fields with
  | some v => simp [firstField?, hkey]
  | none => cases hother : Json.field? other fields <;> simp [firstField?, hkey, hother]

/-- Whether an item cannot be gone through: an object whose variables have no items. -/
def Spoils (item : Json) : Prop :=
  ∃ fields v, item = .obj fields ∧ Json.field? "variables" fields = some v ∧ v.lacksItems = true

/-- An object whose variables can be gone through spoils nothing. -/
theorem not_spoils_of_asTexts {fields : List (Text × Json)} {texts : List Text}
    (h : ((Json.field? "variables" fields).getD .null).asTexts = .ok texts) :
    ¬ Spoils (.obj fields) := by
  rintro ⟨fields', v, hfields, hv, hlacks⟩
  obtain rfl : fields = fields' := Json.obj.inj hfields
  exact Json.not_lacksItems_of_asTexts h ⟨v, hv, hlacks⟩

/-- Exactly those items end the reading of groups; all others are read or dropped. -/
theorem ofJson_notIterable_iff (item : Json) :
    (∃ kind, ofJson item = .error (.notIterable kind)) ↔ Spoils item := by
  cases item with
  | obj fields =>
      have hvariables : Json.field? "variables" (recoverFromCondition fields)
          = Json.field? "variables" fields :=
        field?_recoverFromCondition (by decide) (by decide) fields
      rw [ofJson, ofFields]
      simp only [hvariables]
      cases htexts : ((Json.field? "variables" fields).getD .null).asTexts with
      | error kind =>
          obtain ⟨v, hv, hlacks, -⟩ := (Json.asTexts_getD_eq_error_iff _ kind).mp htexts
          exact ⟨fun _ => ⟨fields, v, rfl, hv, hlacks⟩, fun _ => ⟨kind, rfl⟩⟩
      | ok needed =>
          -- what else can be wrong with the object makes it an invalid group, not a failure
          constructor
          · rintro ⟨kind, h⟩
            simp only at h
            split at h
            · exact nomatch h
            · split at h <;> exact nomatch h
          · intro hspoils
            exact absurd hspoils (not_spoils_of_asTexts htexts)
  | _ =>
      constructor
      · rintro ⟨kind, h⟩
        exact nomatch h
      · rintro ⟨fields, v, h, -⟩
        exact nomatch h

end UsageGroup

/-! ## Descriptions -/

namespace Description

/-- The groups are lost exactly when one of the items spoils them. -/
theorem readGroups_eq_error_iff (items : List Json) (index : Nat) :
    (∃ kind, (readGroups index items).value = .error kind) ↔
      ∃ item ∈ items, UsageGroup.Spoils item := by
  -- the index only numbers the warnings, so it stays open
  induction items generalizing index with
  | nil => simp [readGroups]
  | cons item items ih =>
      have hhead := UsageGroup.ofJson_notIterable_iff item
      simp only [List.mem_cons, exists_eq_or_imp]
      rw [← ih (index + 1), ← hhead, readGroups]
      cases hitem : UsageGroup.ofJson item with
      | ok g =>
          rw [Logged.exists_error_map]
          simp
      | error e =>
          cases e with
          | invalid issues => simp
          | notIterable kind => simp

/-- Reading the field for the groups fails exactly when it is a list with an item that spoils it. -/
theorem groupsField_eq_error_iff (v : Json) :
    (∃ kind, (groupsField v).value = .error kind) ↔
      ∃ items, v = .arr items ∧ ∃ item ∈ items, UsageGroup.Spoils item := by
  cases v with
  | arr items =>
      rw [groupsField, readGroups_eq_error_iff]
      simp
  | _ => simp [groupsField, Logged.warn]

/-- Whether a number or a truth value stands where the texts of a description are wanted. -/
def Misplaces (fields : List (Text × Json)) : Prop :=
  (∃ v, Json.field? "features" fields = some v ∧ v.lacksItems = true) ∨
    ∃ items, (Json.field? "conditional_usage" fields).or (Json.field? "conditionalUsage" fields)
        = some (.arr items) ∧ ∃ item ∈ items, UsageGroup.Spoils item

/-- Exactly then the description of an object is lost. -/
theorem ofFields_eq_error_iff (fields : List (Text × Json)) :
    (∃ kind, (ofFields fields).value = .error kind) ↔ Misplaces fields := by
  rw [ofFields, Misplaces, ← UsageGroup.map_firstField?]
  cases hfeatures : ((Json.field? "features" fields).getD .null).asTexts with
  | error kind =>
      obtain ⟨v, hv, hlacks, -⟩ := (Json.asTexts_getD_eq_error_iff _ kind).mp hfeatures
      exact ⟨fun _ => .inl ⟨v, hv, hlacks⟩, fun _ => ⟨kind, rfl⟩⟩
  | ok features =>
      rw [or_iff_right (Json.not_lacksItems_of_asTexts hfeatures)]
      dsimp only
      rw [Logged.exists_error_map, groupsField_eq_error_iff]
      generalize (UsageGroup.firstField? ["conditional_usage", "conditionalUsage"] fields).map (·.2)
        = usage
      cases usage with
      | none => simp
      | some v => simp

end Description

/-! ## Replies -/

namespace Reply

/-- What is read of a reply: its text without fence marks and white space around it. -/
def cleaned (reply : Text) : Text := Text.trim (removeFences reply)

/-- An error that a reply is not expected to have arises exactly when the reader gives up on an
integer or on nesting, or when a number or a truth value stands where an object wants texts. -/
theorem description_unexpected_iff (reply : Text) :
    (∃ e, (description reply).value = .error e ∧ e.isExpected = false) ↔
      (∃ digits, Json.read (cleaned reply) = .error (.integerTooLong digits)) ∨
      (∃ what, Json.read (cleaned reply) = .error (.tooDeep what)) ∨
      ∃ fields, Json.read (cleaned reply) = .ok (.obj fields) ∧ Description.Misplaces fields := by
  rw [description, ← cleaned]
  cases hread : Json.read (cleaned reply) with
  | error e =>
      cases e with
      | fault what line column offset => simp [ReplyError.isExpected]
      | integerTooLong digits => simp [ReplyError.isExpected]
      | tooDeep what => simp [ReplyError.isExpected]
  | ok v =>
      cases v with
      | obj fields =>
          have hvalue :
              ((Except.mapError ReplyError.notIterable) <$> Description.ofFields fields).value
                = (Description.ofFields fields).value.mapError .notIterable := rfl
          simp only [hvalue]
          have hobj : Description.Misplaces fields ↔ ∃ fields', (Except.ok (Json.obj fields) :
              Except Json.ReadError Json) = .ok (.obj fields') ∧ Description.Misplaces fields' := by
            simp
          rw [← hobj, ← Description.ofFields_eq_error_iff]
          cases (Description.ofFields fields).value with
          | ok d => simp [Except.mapError]
          | error kind => simp [Except.mapError, ReplyError.isExpected]
      | _ => simp [ReplyError.isExpected]

/-- A number for the variables of one group loses the whole reply. -/
example : (match (description
      "\x7b\"conditionalUsage\": [\x7b\"trigger\": \"t\", \"variables\": 5\x7d]\x7d").value with
      | .error e => e.message
      | .ok _ => []) = ("'int' object is not iterable" : Text) := by
  decide +kernel

end Reply

end ModuleDocs
