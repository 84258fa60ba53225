import ModuleDocs.Text.Digit

/-! # Arguments of the command line

    Options begin with a hyphen and may stand anywhere; a long option may be
    shortened as long as only one option begins so.  Everything else is the
    name of a directory, and all names stand together.  After two hyphens
    every argument is a name.

    Arguments are sorted out first: one that begins several options is an
    error whatever else is said.  Then they are taken in order, and the
    first one that asks for help or is wrong decides. -/

namespace ModuleDocs

/-- What a command line asks for. -/
structure Arguments where
  directories : List Text := []
  all : Bool := false
  baseDir : Text := ['.']
  describer : Option Text := none
  dryRun : Bool := false
  verbose : Bool := false
deriving DecidableEq, Repr

namespace CommandLine

/-- An option. -/
inductive Switch where
  | help
  | all
  | baseDir
  | describer
  | dryRun
  | verbose
deriving DecidableEq, Repr

namespace Switch

/-- All options. -/
def list : List Switch := [help, all, baseDir, describer, dryRun, verbose]

/-- The long name of an option. -/
def longName : Switch → Text
  | help => "--help"
  | all => "--all"
  | baseDir => "--base-dir"
  | describer => "--describer"
  | dryRun => "--dry-run"
  | verbose => "--verbose"

/-- The short name of the option that has one. -/
def shortName : Text := "-h"

/-- Whether a value follows the option. -/
def takesValue : Switch → Bool
  | baseDir => true
  | describer => true
  | _ => false

/-- The option of a full name. -/
def ofName? (name : Text) : Option Switch :=
  if name = shortName then some help else list.find? (·.longName = name)

/-- The options whose long name begins with a text. -/
def startingWith (start : Text) : List Switch :=
  list.filter fun o => (Text.dropPrefix? start o.longName).isSome

end Switch

/-- The ways to describe modules that can be chosen. -/
def describerKinds : List Text := ["openai", "heuristic"]

/-- An argument sorted out. -/
inductive Argument where
  | plain (t : Text)
  /-- Two hyphens. -/
  | separator
  /-- An option by its long name, with the value after an equals sign if there is one. -/
  | long (o : Switch) (value : Option Text)
  /-- The short option, with the text that follows it in the same argument, an equals sign left
  out. -/
  | short (more : Text)
  | unknown
deriving DecidableEq, Repr

/-- Why a command line is not carried out. -/
inductive Refusal where
  | help
  | usage
deriving DecidableEq, Repr

/-- A text before and after its first equals sign. -/
def splitEquals (t : Text) : Text × Option Text :=
  match t.dropWhile (· ≠ '=') with
  | _ :: value => (t.takeWhile (· ≠ '='), some value)
  | [] => (t, none)

/-- An argument that names no option in full: a shortened one, a name after all, or unknown. -/
def sortPartial (t : Text) : Except Refusal Argument :=
  let other := .ok (if Text.isNegativeNumber t ∨ ' ' ∈ t then .plain t else .unknown)
  match t with
  | '-' :: '-' :: _ =>
    let (name, value) := splitEquals t
    match Switch.startingWith name with
    | [] => other
    | [o] => .ok (.long o value)
    | _ => .error .usage
  | '-' :: 'h' :: more => .ok (.short more)
  | _ => other

/-- Sorts out one argument. -/
def sort (t : Text) : Except Refusal Argument :=
  match t with
  | '-' :: _ :: _ =>
    let (name, value) := splitEquals t
    if t = Switch.shortName then .ok (.long .help none)
    else if name = Switch.shortName then .ok (.short (value.getD []))
    else match Switch.ofName? t, Switch.ofName? name with
      | some o, _ => .ok (.long o none)
      | none, some o => .ok (.long o value)
      | none, none => sortPartial t
  | _ => .ok (.plain t)

/-- Sorts out the arguments; after the separator all are names. -/
def sortAll : List Text → Except Refusal (List Argument)
  | [] => .ok []
  | t :: ts =>
    if t = ['-', '-'] then .ok (.separator :: ts.map .plain)
    else do
      let a ← sort t
      let rest ← sortAll ts
      pure (a :: rest)

/-- What the text after the short option asks for: help again for each further letter of the
option; nothing else may stand there. -/
def shortCluster (more : Text) : Refusal :=
  if more ≠ [] && more.all (· = 'h') then .help else .usage

/-- The arguments taken so far. -/
structure Taking where
  arguments : Arguments := {}
  /-- Whether the names have been taken. -/
  named : Bool := false
  /-- Whether there was an argument that has no place. -/
  extra : Bool := false

/-- An option that stands for itself. -/
def Switch.turnOn (o : Switch) (a : Arguments) : Except Refusal Arguments :=
  match o with
  | help => .error .help
  | all => .ok { a with all := true }
  | dryRun => .ok { a with dryRun := true }
  | verbose => .ok { a with verbose := true }
  | baseDir => .error .usage
  | describer => .error .usage

/-- An option with its value. -/
def Switch.assign (o : Switch) (value : Text) (a : Arguments) : Except Refusal Arguments :=
  match o with
  | baseDir => .ok { a with baseDir := value }
  | describer =>
    if describerKinds.contains value then .ok { a with describer := some value } else .error .usage
  | _ => .error .usage

/-- The names at the start of the arguments. -/
def namesAtStart : List Argument → List Text
  | .plain t :: rest => t :: namesAtStart rest
  | .separator :: rest => namesAtStart rest
  | _ => []

/-- Takes the arguments in order.  `inNames` says whether the names are being passed over. -/
def take (s : Taking) (inNames : Bool) : List Argument → Except Refusal Arguments
  | [] => if s.extra then .error .usage else .ok s.arguments
  | .unknown :: rest => take { s with extra := true } false rest
  | .short more :: _ => .error (shortCluster more)
  | .long o (some value) :: rest => do
    let a ← o.assign value s.arguments
    take { s with arguments := a } false rest
  | .long o none :: .plain value :: rest =>
    if o.takesValue then do
      let a ← o.assign value s.arguments
      take { s with arguments := a } false rest
    else do
      let a ← o.turnOn s.arguments
      take { s with arguments := a } false (.plain value :: rest)
  | .long o none :: rest => do
    let a ← o.turnOn s.arguments
    take { s with arguments := a } false rest
  | a :: rest =>
    if inNames then take s true rest
    else if s.named then take { s with extra := true } true rest
    else
      let named := { s.arguments with directories := namesAtStart (a :: rest) }
      take { s with arguments := named, named := true } true rest

/-- What a command line asks for. -/
def read (arguments : List Text) : Except Refusal Arguments := do
  take {} false (← sortAll arguments)

end CommandLine

end ModuleDocs
