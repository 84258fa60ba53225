import ModuleDocs.Files.Access
import ModuleDocs.Log
import ModuleDocs.Settings.Basic

/-! # Where log entries go

    Entries go to the console and, when there is a log directory, to a file
    for general entries and a file for errors.  Each place takes the entries
    from a level on.

    Settings may give any name as the level; one that names no level stands
    for INFO, but for two names that are taken by the formats of lines. -/

namespace ModuleDocs

/-- Why the name of a level is refused: it stands for something else. -/
inductive LevelError where
  /-- It stands for the format of a line. -/
  | isFormat (format : Text)
  /-- It stands for the table of formats. -/
  | isTable (shown : Text)
deriving DecidableEq, Repr

namespace LevelError

/-- The wording of an error. -/
def message : LevelError → Text
  | isFormat format => "Unknown level: " ++ Text.quoted format
  | isTable shown => "Level not an integer or a valid string: " ++ shown

/-- The format of a line for each style of format. -/
def styles : List (Text × Text × Text) :=
  [ ("%", "PercentStyle", "%(levelname)s:%(name)s:%(message)s"),
    ("\x7b", "StrFormatStyle", "\x7blevelname\x7d:\x7bname\x7d:\x7bmessage\x7d"),
    ("$", "StringTemplateStyle", "$\x7blevelname\x7d:$\x7bname\x7d:$\x7bmessage\x7d") ]

/-- The table of formats as a message shows it. -/
def shownStyles : Text :=
  '\x7b' :: Text.join ", " (styles.map fun (key, name, format) =>
    Text.quoted key ++ ": (<class 'logging." ++ name ++ "'>, " ++ Text.quoted format ++ [')'])
    ++ ['\x7d']

/-- What is wrong with the name of a level, given in upper case. -/
def ofName? (name : Text) : Option LevelError :=
  if name = "BASIC_FORMAT" then some (isFormat "%(levelname)s:%(name)s:%(message)s")
  else if name = "_STYLES" then some (isTable shownStyles)
  else none

end LevelError

/-- A place for log entries. -/
inductive Sink where
  | file (path : Path) (level : Level)
  | console (level : Level)
deriving DecidableEq, Repr

/-- The log of a run: the level from which on entries are made, and where they go. -/
structure LogPlan where
  level : Level
  sinks : List Sink
deriving DecidableEq, Repr

/-- Whether an entry counts where entries from a level on do. -/
def Entry.reaches (e : Entry) (level : Level) : Bool := level.rank ≤ e.level.rank

/-- The two parts of a log line that do not depend on time and place: the level in its column, and
the text. -/
def Entry.line (e : Entry) : Text × Text := (Text.padRight 8 e.level.name, e.text)

namespace Sink

/-- The level from which on a sink takes entries. -/
def level : Sink → Level
  | file _ level => level
  | console level => level

/-- The path of a sink that is a file. -/
def path? : Sink → Option Path
  | file path _ => some path
  | console _ => none

end Sink

namespace LogPlan

/-- The log that settings ask for. -/
def ofSettings (s : Settings) (verbose : Bool) : LogPlan :=
  let level := if verbose || s.logLevel = "DEBUG" then .debug else .info
  let files := match s.logDir with
    | some dir => [.file (dir.child "info.log") .info, .file (dir.child "error.log") .error]
    | none => []
  ⟨level, files ++ [.console level]⟩

/-- The lines that entries leave in a sink. -/
def linesFor (plan : LogPlan) (sink : Sink) (entries : List Entry) : List (Text × Text) :=
  (entries.filter fun e => e.reaches plan.level && e.reaches sink.level).map Entry.line

/-- The tree with a file, empty when it was not there.  Log files are opened by their absolute
path. -/
def openFile (cwd : Location) (t : Tree) (p : Path) : Except FileError Tree :=
  let p := Path.absolute (p.resolve cwd)
  match t.read cwd p with
  | .ok _ => .ok t
  | .error ⟨.notFound, _⟩ => t.write cwd p []
  | .error e => .error e

/-- Opens files one after the other; the tree also when one of them cannot be opened. -/
def openAll (cwd : Location) (t : Tree) : List Path → Except FileError Unit × Tree
  | [] => (.ok (), t)
  | p :: ps =>
    match openFile cwd t p with
    | .ok t => openAll cwd t ps
    | .error e => (.error e, t)

/-- Makes the log directory and opens the log files. -/
def prepare (plan : LogPlan) (dir : Option Path) (cwd : Location) (t : Tree) :
    Except FileError Unit × Tree :=
  match dir.elim (.ok (), t) (t.ensureDirectory cwd) with
  | (.ok (), t) => openAll cwd t (plan.sinks.filterMap Sink.path?)
  | failed => failed

end LogPlan

end ModuleDocs
