import ModuleDocs.Text.Basic

/-! # Environments

    A variable of the environment has a name that is not empty and holds no
    equals sign, and neither name nor value holds a null character. -/

namespace ModuleDocs.Settings

/-- Why something cannot be a variable. -/
inductive VariableFault where
  | nullCharacter
  | equalsSign
  | emptyName
deriving DecidableEq, Repr

namespace VariableFault

/-- The wording of a fault. -/
def message : VariableFault → Text
  | nullCharacter => "embedded null byte"
  | equalsSign => "illegal environment variable name"
  | emptyName => "[Errno 22] Invalid argument"

/-- What is wrong with a name and a value. -/
def ofVariable? (name value : Text) : Option VariableFault :=
  if '\x00' ∈ name ∨ '\x00' ∈ value then some nullCharacter
  else if '=' ∈ name then some equalsSign
  else if name = [] then some emptyName
  else none

/-- What is wrong with the first variable that cannot be one. -/
def ofEnvironment? (env : List (Text × Text)) : Option VariableFault :=
  env.findSome? fun (name, value) => ofVariable? name value

end VariableFault

end ModuleDocs.Settings
