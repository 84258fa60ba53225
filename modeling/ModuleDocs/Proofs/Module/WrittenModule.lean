import ModuleDocs.Proofs.Module.RepeatedNames
import ModuleDocs.Proofs.Module.WrittenVariable

/-! # Modules made of written variables

    A module is written as any number of files, each a sequence of variables
    and of lines between them, all variables with names of their own.  Its
    context is built without an error or a warning: the declarations are
    those that were written, by file name and then by place, and there are
    no outputs. -/

namespace ModuleDocs

open Text Hcl Condition

/-! ## Quiet texts -/

/-- A part of a file: a line between inputs, or a variable. -/
inductive FilePart where
  | line (t : Text)
  | declared (v : WrittenVariable)
deriving DecidableEq, Repr

namespace FilePart

/-- The variable of a part, if it is one. -/
def written? : FilePart → Option WrittenVariable
  | line _ => none
  | declared v => some v

/-- The part as it stands in the text. -/
def toPart (g : Margins) (message : Text) : FilePart → Part
  | line t => .line t
  | declared v => .block (v.block g message)

/-- A line opens no declaration; a variable is plain. -/
def IsPlain : FilePart → Prop
  | line t => '\n' ∉ t ∧ opensWith "variable" t = false ∧ opensWith "output" t = false
  | declared v => v.IsPlain

instance : (p : FilePart) → Decidable p.IsPlain
  | line t => inferInstanceAs
      (Decidable ('\n' ∉ t ∧ opensWith "variable" t = false ∧ opensWith "output" t = false))
  | declared v => inferInstanceAs (Decidable v.IsPlain)

/-- The variable of a plain part is plain. -/
theorem isPlain_of_written? {part : FilePart} (h : part.IsPlain) {v : WrittenVariable}
    (hv : part.written? = some v) : v.IsPlain := by
  cases part with
  | line t => exact nomatch hv
  | declared w =>
      obtain rfl := Option.some.inj hv
      exact h

end FilePart

/-- A file: its name and its parts. -/
structure WrittenFile where
  name : Text
  parts : List FilePart
deriving DecidableEq, Repr

namespace WrittenFile

/-- The text of a file. -/
def text (g : Margins) (message : Text) (f : WrittenFile) : Text :=
  writeParts "variable" (f.parts.map (FilePart.toPart g message))

/-- The variables of a file, in order. -/
def inputs (f : WrittenFile) : List WrittenVariable := f.parts.filterMap FilePart.written?

section Scan

variable (m : BraceMode) (g : Margins) {message : Text} (hmessage : message.all isPlain = true)
  {f : WrittenFile} (hf : ∀ p ∈ f.parts, p.IsPlain)
include hmessage hf

end Scan

end WrittenFile

/-! ## Modules -/

/-- A module as it is written: the margins of its blocks, the message of its validations, and its
files. -/
structure WrittenModule where
  margins : Margins
  message : Text
  files : List WrittenFile

namespace WrittenModule

/-- The files by name. -/
def sortedFiles (p : WrittenModule) : List WrittenFile :=
  p.files.mergeSort fun f f' => Text.le f.name f'.name

/-- The variables of the module in the order of their discovery. -/
def inputs (p : WrittenModule) : List WrittenVariable :=
  p.sortedFiles.flatMap WrittenFile.inputs

/-- The declarations of the module. -/
def declarations (p : WrittenModule) : List Declaration :=
  p.inputs.map (WrittenVariable.declaration p.margins p.message)

/-- The names and texts of the files. -/
def source (p : WrittenModule) : List (Text × Text) :=
  p.files.map fun f => (f.name, f.text p.margins p.message)

/-- Whether everything in the module is plain and its variables have names of their own. -/
structure IsPlain (p : WrittenModule) : Prop where
  message : p.message.all isPlain = true
  parts : ∀ f ∈ p.files, ∀ part ∈ f.parts, part.IsPlain
  distinct : ((p.files.flatMap WrittenFile.inputs).map WrittenVariable.name).Nodup

instance (p : WrittenModule) : Decidable p.IsPlain :=
  decidable_of_iff
    (p.message.all isPlain = true ∧ (∀ f ∈ p.files, ∀ part ∈ f.parts, part.IsPlain) ∧
      ((p.files.flatMap WrittenFile.inputs).map WrittenVariable.name).Nodup)
    ⟨fun h => ⟨h.1, h.2.1, h.2.2⟩, fun h => ⟨h.message, h.parts, h.distinct⟩⟩

/-- The context of the module. -/
def context (info : ModuleMeta) (p : WrittenModule) : ModuleContext where
  info := info
  declarations := p.declarations
  classified := .ofList p.declarations
  outputs := []
  files := p.sortedFiles.map fun f => (f.name, f.text p.margins p.message)

section Build

variable {p : WrittenModule} (hp : p.IsPlain)
include hp

/-- The variables found have names of their own. -/
theorem nodup_names : (p.inputs.map WrittenVariable.name).Nodup := by
  have hperm : p.inputs.Perm (p.files.flatMap WrittenFile.inputs) :=
    (List.mergeSort_perm p.files _).flatMap_right _
  exact (hperm.map WrittenVariable.name).nodup_iff.mpr hp.distinct

theorem isPlain_of_mem {v : WrittenVariable} (hv : v ∈ p.inputs) : v.IsPlain := by
  obtain ⟨f, hf, hmem⟩ := List.mem_flatMap.mp hv
  obtain ⟨part, hpart, hwritten⟩ := List.mem_filterMap.mp hmem
  exact FilePart.isPlain_of_written? (hp.parts f (List.mem_mergeSort.mp hf) part hpart) hwritten

end Build

end WrittenModule

end ModuleDocs
