import ModuleDocs.Components
import ModuleDocs.Readme.Document

/-! # From a directory to the text of a README

    A module is read and scanned, described, and assembled with the README
    that is there already.  These steps read the workspace and leave it as it
    is. -/

namespace ModuleDocs

/-- Why no README is made for a module. -/
inductive GenerateError where
  | component (e : ComponentError)
  | module (e : ModuleError)
  | duplicates (e : DuplicateError)
  | describer (message : Text)
  | readme (e : TextFileError)
deriving DecidableEq, Repr

/-- The wording of an error. -/
def GenerateError.message : GenerateError → Text
  | component e => e.message
  | module e => e.message
  | duplicates e => e.message
  | describer message => message
  | readme e => e.message

namespace Generate

/-- The context of a module with the given files. -/
def contextOf (info : ModuleMeta) (files : List (Text × Text)) :
    Action GenerateError ModuleContext := do
  let mode ← ExceptT.adapt .component Action.scanner
  let policy := (← get).settings.duplicatePolicy
  Action.ofResult .duplicates (ModuleContext.build mode policy info files)

/-- Reads and scans the module of a directory. -/
def readModule (w : Workspace) (directory : Text) : Action GenerateError ModuleContext := do
  let checkout ← Action.ofParts Components.getCheckout
  let files ← Action.ofExcept .module (checkout.value.options.readFiles w directory)
  let info ← Action.ofExcept (.module ∘ .file ∘ .file) (checkout.value.moduleMeta w directory)
  modify (·.putCheckout { checkout with value := checkout.value.withTag w })
  contextOf info files

/-- Describes a module and writes its examples. -/
def describe (w : Workspace) (c : ModuleContext) :
    Action GenerateError (Description × UsageExamples) := do
  let describer ← ExceptT.adapt .component Action.describer
  let description ← Action.ofResult .describer (describer.describe w.chat c)
  let layout ← Action.ofParts Components.getLayout
  let usage ← Action.ofLogged (UsageExamples.synthesize layout.value c description.groups)
  pure (description, usage)

/-- The text of a file, if there is one. -/
def existing? (w : Workspace) (p : Path) : Except TextFileError (Option Text) := do
  match ← (w.look p).mapError .file with
  | some _ => some <$> w.readText .utf8 p
  | none => pure none

/-- Assembles the README of a module with what the old one holds. -/
def assemble (w : Workspace) (readme : Path) (c : ModuleContext) (d : Description)
    (u : UsageExamples) : Action GenerateError Text := do
  let existing ← Action.ofExcept .readme (existing? w readme)
  let assembler ← Action.ofParts Components.getAssembler
  pure (Readme.assemble assembler.value.value c d u existing)

/-- The text of the README of a module. -/
def content (w : Workspace) (directory readme : Path) : Action GenerateError Text := do
  let context ← readModule w directory.toText
  let (description, usage) ← describe w context
  assemble w readme context description usage

end Generate

end ModuleDocs
