import ModuleDocs.Issue
import ModuleDocs.Json.Value
import ModuleDocs.Usage.Condition

/-! # Usage groups

    A usage group names a trigger variable, one of its values, and the
    conditional variables that this value makes mandatory.  Groups arrive as
    loosely written JSON: fields have several names, scalars stand for text,
    and trigger and value may be given as a condition only.  Reading brings
    them to one form. -/

namespace ModuleDocs

/-- One value of a trigger variable and the variables it makes mandatory. -/
structure UsageGroup where
  trigger : Text
  value : Text := []
  label : Text := []
  needed : List Text := []
deriving DecidableEq, Repr

/-- Why a value is not read as a group. -/
inductive GroupError where
  | invalid (issues : List Issue)
  | notIterable (kind : Text)
deriving DecidableEq, Repr

/-- The wording for a value that cannot be gone through item by item. -/
def notIterableMessage (kind : Text) : Text := "'" ++ kind ++ "' object is not iterable"

/-- The texts of a value where several are wanted: a single text counts as one item, an object
stands for its keys.  Numbers and truth values have no items. -/
def Json.asTexts : Json → Except Text (List Text)
  | .null => .ok []
  | .str t => .ok [t]
  | .arr items => .ok (items.map asText)
  | .obj fields => .ok (fields.map (·.1))
  | v => .error v.kind

/-- The texts trimmed, blank ones left out. -/
def trimAll (ts : List Text) : List Text := (ts.map Text.trim).filter (· ≠ [])

namespace UsageGroup

/-- The condition under which the needed variables are required. -/
def condition (g : UsageGroup) : Text := Condition.equals g.trigger g.value

/-- The group of the given texts: trigger, label and names are trimmed, a variable is named
once, and a missing label is the condition.  A blank trigger makes no group. -/
def ofTexts? (trigger value label : Text) (needed : List Text) : Option UsageGroup :=
  let trigger := Text.trim trigger
  if trigger = [] then none
  else
    let label := Text.trim label
    some
      { trigger := trigger
        value := value
        label := if label = [] then Condition.equals trigger value else label
        needed := (trimAll needed).eraseDups }

/-- The names of the field for the trigger, the first given one counting. -/
def triggerKeys : List Text := ["trigger", "triggerVar", "trigger_var"]

/-- The names of the field for the value. -/
def valueKeys : List Text := ["value", "triggerValue", "trigger_value"]

/-- The names of the field for the label. -/
def labelKeys : List Text := ["label", "name"]

/-- The first of several keys that the object has, with its value. -/
def firstField? (keys : List Text) (fields : List (Text × Json)) : Option (Text × Json) :=
  keys.findSome? fun key => (Json.field? key fields).map (key, ·)

/-- Whether a field counts as a value: it is there and neither null nor the empty text. -/
def isGivenValue : Option Json → Bool
  | none => false
  | some .null => false
  | some (.str []) => false
  | some _ => true

/-- Fills in trigger and value from the condition where the object gives none. -/
def recoverFromCondition (fields : List (Text × Json)) : List (Text × Json) :=
  let stated := match Json.field? "condition" fields with
    | some (.str condition) => Condition.stated? condition
    | _ => none
  match stated with
  | none => fields
  | some (trigger, value) =>
    let hasTrigger := triggerKeys.any fun k => ((Json.field? k fields).map Json.isTruthy).getD false
    let hasValue := valueKeys.any fun k => isGivenValue (Json.field? k fields)
    let fields := if hasTrigger then fields else Json.put "trigger" (.str trigger) fields
    if hasValue then fields else Json.put "value" (.str value) fields

/-- The text of the first of several fields, empty when the object has none of them. -/
def textField (keys : List Text) (fields : List (Text × Json)) : Text :=
  ((firstField? keys fields).map fun found => found.2.asText).getD []

/-- Reads a group from the fields of an object. -/
def ofFields (fields : List (Text × Json)) : Except GroupError UsageGroup :=
  let fields := recoverFromCondition fields
  match ((Json.field? "variables" fields).getD .null).asTexts with
  | .error kind => .error (.notIterable kind)
  | .ok needed =>
    match firstField? triggerKeys fields with
    | none => .error (.invalid [⟨.missing, [.field "trigger"]⟩])
    | some (key, trigger) =>
      match ofTexts? trigger.asText (textField valueKeys fields) (textField labelKeys fields)
          needed with
      | some g => .ok g
      | none =>
        .error (.invalid [⟨.rejected "trigger name must not be empty", [.field key]⟩])

/-- Reads a group from a JSON value. -/
def ofJson : Json → Except GroupError UsageGroup
  | .obj fields => ofFields fields
  | _ => .error (.invalid [⟨.notARecord "UsageGroup", []⟩])

end UsageGroup

end ModuleDocs
