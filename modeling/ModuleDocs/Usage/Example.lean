import ModuleDocs.Log
import ModuleDocs.Module.Context
import ModuleDocs.Usage.Group

/-! # Usage examples

    The basic example gives every variable that callers always have to give.
    The example of a usage group shows the trigger with its value and marks
    the variables that the value requires.  Names stand in order and the
    equals signs in one column, so equal inputs give equal texts. -/

namespace ModuleDocs

/-- A rendered example; the basic one has neither label nor condition. -/
structure UsageBlock where
  text : Text
  label : Option Text := none
  condition : Option Text := none
deriving DecidableEq, Repr

/-- The examples of a module. -/
structure UsageExamples where
  basic : UsageBlock
  conditional : List UsageBlock := []
deriving DecidableEq, Repr

/-- How examples are laid out. -/
structure UsageStyle where
  placeholderStart : Text := "your-"
  separator : Text := "-"
  indent : Text := "  "
deriving DecidableEq, Repr

/-- The names of the declarations. -/
def namesOf (ds : List Declaration) : List Text := ds.map (·.name)

/-- The names in order, each once. -/
def nameSet (names : List Text) : List Text := Text.sort names.eraseDups

@[simp] theorem mem_nameSet {name : Text} {names : List Text} :
    name ∈ nameSet names ↔ name ∈ names := by
  rw [nameSet, Text.mem_sort, List.mem_eraseDups]

namespace UsageStyle

/-- The value shown for a variable whose value is not known. -/
def placeholder (s : UsageStyle) (name : Text) : Text :=
  s.placeholderStart ++ Text.replaceChar '_' s.separator name

/-- The line that assigns a value, the name padded to `width`. -/
def assignment (s : UsageStyle) (width : Nat) (name value : Text) (required : Option Text) :
    Text :=
  let line := s.indent ++ Text.padRight width name ++ " = \"" ++ Hcl.escape value ++ ['"']
  match required with
  | some condition => line ++ "  # Required when " ++ condition
  | none => line

/-- One line for each name: its value or a placeholder, and its condition if it has one. -/
def assignments (s : UsageStyle) (names : List Text) (values conditions : List (Text × Text)) :
    List Text :=
  let width := Text.widest names
  names.map fun name =>
    s.assignment width name ((values.lookup name).getD (s.placeholder name))
      (conditions.lookup name)

/-- A module block with the given lines after its source. -/
def moduleBlock (s : UsageStyle) (info : ModuleMeta) (lines : List Text) : Text :=
  let head :=
    [ "module \"" ++ info.name ++ "\" \x7b",
      s.indent ++ "source = \"" ++ info.source ++ ['"'] ]
  Text.join ['\n'] (head ++ (if lines = [] then [] else [] :: lines) ++ [['\x7d']])

/-- The basic example; empty when nothing has to be given. -/
def basic (s : UsageStyle) (required trigger : List Declaration) (info : ModuleMeta) : Text :=
  let names := nameSet (namesOf required ++ namesOf trigger)
  if names = [] then [] else s.moduleBlock info (s.assignments names [] [])

/-- The names that the example of a group shows. -/
def shownNames (g : UsageGroup) (required trigger : List Declaration) : List Text :=
  nameSet (namesOf required ++ namesOf trigger ++ g.needed ++ [g.trigger])

/-- The example of a group. -/
def conditional (s : UsageStyle) (g : UsageGroup) (required trigger : List Declaration)
    (info : ModuleMeta) : Text :=
  s.moduleBlock info
    (s.assignments (shownNames g required trigger) [(g.trigger, g.value)]
      (g.needed.map (·, g.condition)))

end UsageStyle

namespace UsageGroup

/-- The trigger of a group when the module has no such trigger, with a warning. -/
def unknownTrigger (g : UsageGroup) (c : Classified) : Logged (List Text) :=
  if g.trigger ∈ namesOf c.trigger then pure []
  else .warn [g.trigger]
    ("Usage group '" ++ g.label ++ "' references unknown trigger '" ++ g.trigger ++ "'")

/-- The variables of a group that are no conditional variables of the module, with a warning for
each.  The trigger itself may stand among them. -/
def unknownVariables (g : UsageGroup) (c : Classified) : Logged (List Text) :=
  (g.needed.filter fun name => !(name ∈ namesOf c.conditional) && name ≠ g.trigger).mapM
    fun name => .warn name ("Usage group '" ++ g.label ++ "' references '" ++ name ++
      "', which is not a conditional variable")

/-- The names in a group that the module does not know in their part. -/
def unknownNames (g : UsageGroup) (c : Classified) : Logged (List Text) := do
  let trigger ← g.unknownTrigger c
  let needed ← g.unknownVariables c
  pure (trigger ++ needed)

end UsageGroup

namespace UsageExamples

/-- The examples of a module for the given groups, in their order. -/
def synthesize (s : UsageStyle) (c : ModuleContext) (groups : List UsageGroup) :
    Logged UsageExamples := do
  let required := c.classified.required
  let trigger := c.classified.trigger
  let blocks ← groups.mapM fun g => do
    let _ ← g.unknownNames c.classified
    pure (UsageBlock.mk (s.conditional g required trigger c.info) (some g.label) (some g.condition))
  pure ⟨⟨s.basic required trigger c.info, none, none⟩, blocks⟩

end UsageExamples

end ModuleDocs
