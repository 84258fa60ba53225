import ModuleDocs.Generate.Context

/-! # Generating READMEs

    The README of a module is written last, and only when everything before
    has succeeded.  A module that fails is recorded with its error and does
    not keep the others from being generated. -/

namespace ModuleDocs

/-- The name of the file with the documentation of a directory. -/
def readmeName : Text := "README.md"

/-- What generating the README of a directory came to. -/
structure Generation where
  directory : Path
  dryRun : Bool
  /-- The text of the README, or why there is none. -/
  outcome : Except GenerateError Text

namespace Generation

/-- Where the README stands. -/
def readme (g : Generation) : Path := g.directory.child readmeName

/-- Whether there is a README. -/
def isOk (g : Generation) : Bool :=
  match g.outcome with
  | .ok _ => true
  | .error _ => false

/-- Whether the README was written. -/
def isWritten (g : Generation) : Bool := g.isOk && !g.dryRun

end Generation

/-- What a run works on: its surroundings and the parts made so far. -/
structure Session where
  workspace : Workspace
  components : Components

/-- A piece of work in a session that cannot fail. -/
abbrev Work (α : Type) := StateT Session Logged α

namespace Generate

/-- Makes the README and, unless it is a dry run, writes it. -/
def write (w : Workspace) (dryRun : Bool) (directory : Path) :
    Action GenerateError (Text × Workspace) := do
  let readme := directory.child readmeName
  let text ← content w directory readme
  if dryRun then pure (text, w)
  else do
    let written ← Action.ofExcept (GenerateError.readme ∘ .file) (w.writeText readme text)
    pure (text, written)

/-- The entry for a module that failed. -/
def failure (directory : Path) (e : GenerateError) : Entry :=
  ⟨.error, "README generation failed for " ++ directory.toText ++ ": " ++ e.message⟩

/-- Generates the README of a directory. -/
def one (dryRun : Bool) (directory : Path) : Work Generation := fun s =>
  let done := (write s.workspace dryRun directory).run s.components
  match done.value with
  | (.ok (text, w), c) => ⟨(⟨directory, dryRun, .ok text⟩, ⟨w, c⟩), done.log⟩
  | (.error e, c) =>
    ⟨(⟨directory, dryRun, .error e⟩, ⟨s.workspace, c⟩), done.log ++ [failure directory e]⟩

/-- Generates the READMEs of several directories: one result for each, in order. -/
def many (dryRun : Bool) (directories : List Path) : Work (List Generation) :=
  directories.mapM (one dryRun)

end Generate

end ModuleDocs
