import ModuleDocs.CommandLine.Arguments
import ModuleDocs.CommandLine.Help
import ModuleDocs.Generate.RootTable
import ModuleDocs.Log.Sink
import ModuleDocs.Settings.Sources

/-! # Running a command line

    A run reads its arguments and settings, finds the directories, generates
    their READMEs, refreshes the table in the root README, and reports a line
    for each module and a summary. -/

namespace ModuleDocs.CommandLine

/-- Why a run breaks off.  Nothing has been printed before there are settings; `shown` is what was
printed before a file operation failed. -/
inductive RunError where
  | settings (e : Settings.LoadError)
  | level (e : LevelError)
  | file {shown : Text} (e : TextFileError)
deriving DecidableEq, Repr

/-- Where the work on directories breaks off: what was printed until then, and why. -/
structure Interruption where
  shown : Text
  cause : TextFileError
deriving DecidableEq, Repr

/-- The work breaks the run off. -/
def Interruption.error (i : Interruption) : RunError := @RunError.file i.shown i.cause

/-- What a run shows: its exit code and what it printed. -/
structure Report where
  exitCode : Nat
  output : Text
deriving DecidableEq, Repr

/-- The line about a generation. -/
def statusLine (g : Generation) : Text :=
  match g.outcome with
  | .error e => "FAILED  " ++ g.directory.toText ++ ": " ++ e.message
  | .ok text =>
    if g.dryRun then "DRY-RUN " ++ g.readme.toText ++ " (" ++ Text.ofNat text.length ++ " chars)"
    else "OK      " ++ g.readme.toText

/-- The line that ends a report. -/
def summaryLine (succeeded failed : Nat) : Text :=
  "Summary: " ++ Text.ofNat succeeded ++ " succeeded, " ++ Text.ofNat failed ++ " failed"

/-- Lines, each ended by a newline. -/
def printed (lines : List Text) : Text := lines.flatMap (· ++ ['\n'])

/-- The line that announces the directories found below the base directory. -/
def foundLine (found : List Path) (base : Text) : Text :=
  "Found " ++ Text.ofNat found.length ++ " module(s) in " ++ base

/-- The directories to work on, and the line that announces them. -/
def requested (a : Arguments) (s : Session) :
    Logged (Except FileError (List Path × List Text) × Session) :=
  if a.all then do
    let (checkout, c) := s.components.getCheckout
    let found ← checkout.value.options.moduleDirectories s.workspace a.baseDir
    pure (found.map fun ps => (ps, [foundLine ps a.baseDir]), { s with components := c })
  else pure (.ok (a.directories.map Path.ofText, []), s)

/-- The paths that lead to directories, and those that do not. -/
def presentAndMissing (w : Workspace) (ps : List Path) : Except FileError (List Path × List Path) :=
  (ps.mapM fun p => (w.hasDirectory p).map (p, ·)).map fun looked =>
    ((looked.filter (·.2)).map (·.1), (looked.filter (!·.2)).map (·.1))

/-- One warning for each directory that is not there. -/
def warnMissing (missing : List Path) : Logged Unit :=
  ⟨(), missing.map fun p => ⟨.warning, "Directory not found: " ++ p.toText⟩⟩

/-- Refreshes the table of the root README when all modules were asked for and any succeeded.  When
that fails, the workspace is left as it was. -/
def refreshRoot (a : Arguments) (w : Workspace) (generations : List Generation) :
    Logged (Except TextFileError Unit × Workspace) :=
  if a.all && generations.any Generation.isOk then
    (fun
      | .ok (_, updated) => (.ok (), updated)
      | .error e => (.error e, w)) <$>
      Generate.updateRoot w a.dryRun a.baseDir generations
  else pure (.ok (), w)

/-- The lines that are printed before the root README is refreshed. -/
def statusLines (announced : List Text) (generations : List Generation) : List Text :=
  announced ++ generations.map statusLine

/-- The report on generations and the number of directories that were missing. -/
def report (announced : List Text) (generations : List Generation) (missing : Nat) : Report :=
  let succeeded := generations.countP Generation.isOk
  let failed := generations.length - succeeded + missing
  { exitCode := if failed = 0 then 0 else 1
    output := printed (statusLines announced generations ++ [summaryLine succeeded failed]) }

/-- Works on directories, of which there is at least one. -/
def processAll (a : Arguments) (announced : List Text) (directories : List Path) (s : Session) :
    Logged (Except Interruption Report × Workspace) :=
  match presentAndMissing s.workspace directories with
  | .error e => pure (.error ⟨printed announced, .file e⟩, s.workspace)
  | .ok (present, missing) => do
    warnMissing missing
    let (generations, s) ← Generate.many a.dryRun present s
    let (refreshed, w) ← refreshRoot a s.workspace generations
    let interrupted := Interruption.mk (printed (statusLines announced generations))
    pure ((refreshed.mapError interrupted).map fun _ =>
      report announced generations missing.length, w)

/-- Works on the directories that were asked for. -/
def process (a : Arguments) (start : Session) :
    Logged (Except Interruption Report × Workspace) := do
  let (wanted, s) ← requested a start
  match wanted with
  | .error e => pure (.error ⟨[], .file e⟩, s.workspace)
  | .ok ([], announced) =>
    pure (.ok ⟨0, printed (announced ++ ["No directories to process.".toList])⟩, s.workspace)
  | .ok (directories, announced) => processAll a announced directories s

/-- The settings of a run: those of the environment, the variable file and the arguments. -/
def settingsFor (a : Arguments) (w : Workspace) (env : List (Text × Text)) :
    Except RunError Settings := do
  let s ← (Settings.load [] env w.tree w.cwd).mapError .settings
  match LevelError.ofName? s.logLevel with
  | some e => throw (.level e)
  | none => pure ()
  pure (match a.describer with
    | some kind => { s with describerType := kind }
    | none => s)

/-- Sets up the log and works on the directories that were asked for. -/
def runWith (a : Arguments) (w : Workspace) (s : Settings) :
    Logged (Except Interruption Report × Workspace) :=
  let (prepared, tree) := (LogPlan.ofSettings s a.verbose).prepare s.logDir w.cwd w.tree
  let w := { w with tree := tree }
  match prepared with
  | .error e => pure (.error ⟨[], .file e⟩, w)
  | .ok () => process a ⟨w, { settings := s }⟩

/-- Runs a command line; the workspace after it is there also when the run breaks off. -/
def run (arguments : List Text) (env : List (Text × Text)) (w : Workspace) :
    Logged (Except RunError Report × Workspace) :=
  match read arguments with
  | .error .help => pure (.ok ⟨0, help⟩, w)
  | .error .usage => pure (.ok ⟨2, []⟩, w)
  | .ok a =>
    match settingsFor a w env with
    | .error e => pure (.error e, w)
    | .ok s => (fun (result, w) => (result.mapError Interruption.error, w)) <$> runWith a w s

end ModuleDocs.CommandLine
