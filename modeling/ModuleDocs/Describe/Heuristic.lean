import ModuleDocs.Text.Case
import ModuleDocs.Usage.Description
import ModuleDocs.Usage.Example

/-! # Describing a module from its declarations

    Usage groups are read off the conditions: a trigger lists its values, and
    a conditional variable belongs to a value that its condition refers to.
    Nothing else than the module is needed, so this never fails. -/

namespace ModuleDocs.Heuristic

open Text

/-- Whether words are separated here: at underscores, hyphens and white space. -/
def isSeparator (c : Char) : Bool := c = '_' || c = '-' || isSpace c

/-- The longest pieces of the text without separators. -/
def wordsOf : Text → List Text
  | [] => []
  | c :: t =>
    if isSeparator c then wordsOf t
    else
      match t with
      | [] => [[c]]
      | d :: _ =>
        if isSeparator d then [c] :: wordsOf t
        else match wordsOf t with
          | [] => [[c]]
          | word :: rest => (c :: word) :: rest

/-- The words of a name, each with a capital. -/
def humanize (t : Text) : Text := join [' '] ((wordsOf t).map capitalize)

/-- The conditional variables that a value of a trigger makes mandatory. -/
def requiredBy (c : Classified) (trigger : Declaration) (value : Text) : List Text :=
  namesOf (c.conditional.filter fun d =>
    (Condition.referencedValues d.condition trigger.name).contains value)

/-- The group of one value of a trigger, when the value makes any variable mandatory. -/
def group? (c : Classified) (trigger : Declaration) (value : Text) : Option UsageGroup :=
  match requiredBy c trigger value with
  | [] => none
  | needed =>
    UsageGroup.ofTexts? trigger.name value
      (humanize value ++ [' '] ++ humanize trigger.name) needed

/-- The groups of a module: by trigger, then by the order in which the trigger lists its values. -/
def groups (c : Classified) : List UsageGroup :=
  c.trigger.flatMap fun trigger =>
    (Condition.listedValues trigger.condition trigger.name).filterMap (group? c trigger)

/-- The sentence about a module. -/
def summary (name : Text) : Text :=
  "Terraform module for " ++ (if humanize name = [] then name else humanize name)

/-- A feature that is listed when its count is not zero. -/
def counted (count : Nat) (before after : Text) : List Text :=
  if count = 0 then [] else [before ++ ofNat count ++ after]

/-- The features of a module. -/
def features (c : ModuleContext) : List Text :=
  let k := c.classified
  counted k.required.length "Requires " " input variable(s)" ++
  (if k.trigger = [] then []
    else ["Supports conditional configuration driven by " ++ join ", " (namesOf k.trigger)]) ++
  counted (k.optional.length + k.conditional.length)
    "Provides defaults for " " optional variable(s)" ++
  counted c.outputs.length "Exposes " " output(s)" ++
  (if c.outputs.any (·.sensitive) then ["Marks sensitive outputs".toList] else [])

/-- The description of a module. -/
def describe (c : ModuleContext) : Description :=
  .ofTexts (summary c.info.name) (features c) (groups c.classified)

end ModuleDocs.Heuristic
