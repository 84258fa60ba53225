import ModuleDocs.Log
import ModuleDocs.Usage.Group

/-! # Descriptions

    The prose about a module and its usage groups.  A group that cannot be
    read is left out with a warning and does not spoil the others. -/

namespace ModuleDocs

/-- Prose and usage groups for one module. -/
structure Description where
  summary : Text := []
  features : List Text := []
  groups : List UsageGroup := []
deriving DecidableEq, Repr

namespace Description

/-- The description of the given texts, trimmed, blank features left out. -/
def ofTexts (summary : Text) (features : List Text) (groups : List UsageGroup) : Description :=
  ⟨Text.trim summary, trimAll features, groups⟩

/-- The groups that can be read, from the item of the given index on; the kind of a value without
items ends the reading. -/
def readGroups (index : Nat) : List Json → Logged (Except Text (List UsageGroup))
  | [] => pure (.ok [])
  | item :: items =>
    match UsageGroup.ofJson item with
    | .ok g => (Except.map (g :: ·)) <$> readGroups (index + 1) items
    | .error (.invalid issues) => do
      Logged.warn () ("Dropping malformed usage group " ++ Text.ofNat index ++ ": " ++
        Text.ofNat issues.length ++ " error(s)")
      readGroups (index + 1) items
    | .error (.notIterable kind) => pure (.error kind)

/-- The groups of the field for them. -/
def groupsField : Json → Logged (Except Text (List UsageGroup))
  | .null => pure (.ok [])
  | .arr items => readGroups 0 items
  | v => .warn (.ok []) ("Ignoring conditional usage of type " ++ v.kind)

/-- Reads a description from the fields of an object; fails with the kind of a value that has no
items where items are wanted. -/
def ofFields (fields : List (Text × Json)) : Logged (Except Text Description) :=
  match ((Json.field? "features" fields).getD .null).asTexts with
  | .error kind => pure (.error kind)
  | .ok features =>
    let usage := UsageGroup.firstField? ["conditional_usage", "conditionalUsage"] fields
    (Except.map fun groups =>
      ofTexts (((Json.field? "description" fields).getD .null).asText) features groups) <$>
      groupsField ((usage.map (·.2)).getD .null)

/-- Reads a description from a JSON value. -/
def ofJson : Json → Logged (Except GroupError Description)
  | .obj fields => (Except.mapError .notIterable) <$> ofFields fields
  | _ => pure (.error (.invalid [⟨.notARecord "ModuleDescription", []⟩]))

end Description

end ModuleDocs
