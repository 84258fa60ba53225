import ModuleDocs.Hcl.Scan
import ModuleDocs.Module.Category
import ModuleDocs.Module.Duplicates

/-! # Modules

    Everything that the documentation of one module is made from: its name
    and source, its files, and the declarations found in them, in the order
    of file names and then of the text. -/

namespace ModuleDocs

/-- The name of a module and the place from which callers take it. -/
structure ModuleMeta where
  name : Text
  source : Text
  version : Text := "v0.0.0"
deriving DecidableEq, Repr

/-- A module with its declarations sorted out. -/
structure ModuleContext where
  info : ModuleMeta
  declarations : List Declaration := []
  classified : Classified := {}
  outputs : List Declaration := []
  files : List (Text × Text) := []

namespace ModuleContext

/-- The names of the outputs. -/
def outputNames (c : ModuleContext) : List Text := c.outputs.map (·.name)

/-- The files in the order of their names. -/
def sortFiles (files : List (Text × Text)) : List (Text × Text) :=
  files.mergeSort fun a b => Text.le a.1 b.1

/-- The variables and the outputs of one file. -/
def scanFile (m : Hcl.BraceMode) (text : Text) :
    Logged (List Declaration × List Declaration) := do
  let inputs ← Hcl.scanVariables m text
  let outputs ← Hcl.scanOutputs m text
  pure (inputs, outputs)

/-- The context of a module with the given files. -/
def build (m : Hcl.BraceMode) (policy : DuplicatePolicy) (info : ModuleMeta)
    (files : List (Text × Text)) : Logged (Except DuplicateError ModuleContext) := do
  let files := sortFiles files
  let scanned ← files.mapM fun file => scanFile m file.2
  let resolved ← resolveDuplicates policy (scanned.flatMap (·.1))
  pure (resolved.map fun inputs =>
    { info := info
      declarations := inputs
      classified := .ofList inputs
      outputs := scanned.flatMap (·.2)
      files := files })

end ModuleContext

end ModuleDocs
