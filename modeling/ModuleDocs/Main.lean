import ModuleDocs.CommandLine.Run

/-! # The program

    Loads the directories that the command line speaks of, runs it on them,
    writes what has changed, and prints the report.  Neither version control
    nor a chat service can be reached from here. -/

namespace ModuleDocs.Program

/-- The surroundings of a run on the given files. -/
def workspaceOf (tree : Tree) (cwd : Location) : Workspace where
  tree := tree
  cwd := cwd
  git := Git.silent
  chat := fun _ => .failure "Connection error."

/-- The tree, also when it could not be changed. -/
def orSame (t : Tree) (changed : Except FileError Tree) : Tree := changed.toOption.getD t

/-- The files of `after` that `before` does not hold so. -/
def changes (before after : Tree) : List (Location × List UInt8) :=
  (after.filesBelow []).filter fun (l, bytes) => before.node? l ≠ some (.file bytes)

/-- Loads a directory, with everything below it or only its own files. -/
partial def load (deep : Bool) (t : Tree) (l : Location) : IO Tree := do
  let place := Path.absolute l
  let mut t := (t.ensureDirectory [] place).2
  for entry in ← (← IO.FS.realPath place.toText.toString).readDir do
    let child := place.child entry.fileName.toList
    match (← entry.path.metadata).type with
    | .file =>
      let bytes ← IO.FS.readBinFile entry.path
      t := orSame t (t.write [] child bytes.toList)
    | .dir =>
      if deep then t ← load deep t child.names
      else t := (t.ensureDirectory [] child).2
    | _ => pure ()
  pure t

/-- Loads a directory when it is there. -/
def loadIfThere (deep : Bool) (t : Tree) (l : Location) : IO Tree := do
  try load deep t l catch _ => pure t

/-- Loads the directories that the arguments speak of. -/
def loadFor (a : Arguments) (cwd : Location) : IO Tree := do
  let mut t ← load false Tree.empty cwd
  for directory in a.directories do
    t ← loadIfThere false t ((Path.ofText directory).resolve cwd)
  if a.all then
    let base := (Path.ofText a.baseDir).resolve cwd
    t ← loadIfThere false t base.dropLast
    t ← loadIfThere true t base
  pure t

/-- The settings that the environment gives. -/
def environment : IO (List (Text × Text)) := do
  let given ← Settings.fieldList.mapM fun field => do
    let name := Text.upper field.name
    pure ((← IO.getEnv name.toString).map fun value => (name, value.toList))
  pure (given.filterMap id)

/-- What a run printed before it broke off. -/
def shownBefore : CommandLine.RunError → Text
  | .settings _ => []
  | .level _ => []
  | @CommandLine.RunError.file shown _ => shown

/-- The message about a run that broke off. -/
def failureText : CommandLine.RunError → Text
  | .settings (.invalid issues) =>
    Text.join ['\n'] (issues.map fun i => i.kind.message)
  | .settings (.notJson field source) => Settings.notJsonMessage field source
  | .settings (.tooDeep what) => (Json.ReadError.tooDeep what).message
  | .settings (.file e) => e.message
  | .level e => e.message
  | .file e => e.message

end ModuleDocs.Program

open ModuleDocs in
/-- Runs the command line. -/
def main (arguments : List String) : IO UInt32 := do
  let cwd := (Path.ofText (← IO.currentDir).toString.toList).names
  let arguments := arguments.map String.toList
  let before ← match CommandLine.read arguments with
    | .ok a => Program.loadFor a cwd
    | .error _ => pure Tree.empty
  let env ← Program.environment
  let done := CommandLine.run arguments env (Program.workspaceOf before cwd)
  for entry in done.log do
    let (level, text) := entry.line
    IO.eprintln (level ++ " | " ++ text).toString
  for (l, bytes) in Program.changes before done.value.2.tree do
    IO.FS.createDirAll (Path.absolute l.dropLast).toText.toString
    IO.FS.writeBinFile (Path.absolute l).toText.toString (ByteArray.mk bytes.toArray)
  match done.value.1 with
  | .ok report =>
    IO.print report.output.toString
    pure (UInt32.ofNat report.exitCode)
  | .error e =>
    IO.print (Program.shownBefore e).toString
    IO.eprintln (Program.failureText e).toString
    pure 1
