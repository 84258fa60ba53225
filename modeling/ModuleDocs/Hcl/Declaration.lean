import ModuleDocs.Text.Basic

/-! # Declarations

    One `variable` or `output` block of a module, as far as documentation
    needs it. -/

namespace ModuleDocs

/-- A rule that a value has to satisfy. -/
structure Validation where
  /-- The condition, trimmed. -/
  condition : Text
  errorMessage : Text := []
  /-- The validation block, braces included. -/
  rawBlock : Text := []
deriving DecidableEq, Repr

/-- The fields of a declaration block. -/
structure Fields where
  description : Text := []
  type : Text := "string"
  /-- The default expression; an explicit null is a default too. -/
  default : Option Text := none
  sensitive : Bool := false
  validation : Option Validation := none
deriving DecidableEq, Repr

/-- A declaration: its keyword, name and block, and the fields of the block. -/
structure Declaration extends Fields where
  kind : Text
  name : Text
  rawBlock : Text
deriving DecidableEq, Repr

namespace Declaration

/-- Whether the declaration has a default. -/
def hasDefault (d : Declaration) : Bool := d.default.isSome

/-- Whether callers have to give a value. -/
def isRequired (d : Declaration) : Bool := !d.hasDefault

/-- The condition of the validation, empty when there is none. -/
def condition (d : Declaration) : Text :=
  match d.validation with
  | some v => v.condition
  | none => []

end Declaration

end ModuleDocs
