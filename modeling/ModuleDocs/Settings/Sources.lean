import ModuleDocs.Files.Access
import ModuleDocs.Settings.Read
import ModuleDocs.Settings.VariableFile

/-! # Where settings come from

    Values given directly outweigh the environment, and the environment
    outweighs variable files.  Names of variables are those of the settings,
    upper and lower case alike; lists are given as JSON.

    The values may also hold wishes about the variables themselves, under
    names that begin with an underscore: a text before every name, whether
    case counts, which texts count as nothing, which files are read. -/

namespace ModuleDocs.Settings

/-- Why settings cannot be made. -/
inductive LoadError where
  | invalid (issues : List Issue)
  /-- A list setting is not JSON in the environment or in a variable file. -/
  | notJson (field source : Text)
  /-- A list setting is nested too deeply there. -/
  | tooDeep (what : Json.Container)
  /-- A variable file cannot be read. -/
  | file (e : TextFileError)
deriving DecidableEq, Repr

/-- The wording for a list that is not JSON. -/
def notJsonMessage (field source : Text) : Text :=
  "error parsing value for field \"" ++ field ++ "\" from source \"" ++ source ++ ['"']

/-- Variables with their names; a name in a variable file may stand without a value. -/
abbrev Variables := List (Text × Option Text)

/-! ## Wishes about variables -/

/-- How variables are named and what their values mean. -/
structure VariableRules where
  /-- What stands before the name of a setting. -/
  start : Text := []
  /-- Whether upper and lower case differ in names. -/
  caseCounts : Bool := false
  /-- Whether a variable without text counts as not given. -/
  skipsEmpty : Bool := false
  /-- The text that stands for null. -/
  null : Option Text := none
  /-- What stands between the name of a setting and that of a part of it. -/
  delimiter : Text := []
deriving DecidableEq, Repr

namespace VariableRules

/-- A wish that is stated and not null. -/
def wish? (values : List (Text × Json)) (name : Text) : Option Json :=
  match Json.field? name values with
  | some .null => none
  | wish => wish

/-- A wish that is a text. -/
def textWish? (values : List (Text × Json)) (name : Text) : Option Text :=
  match wish? values name with
  | some (.str t) => some t
  | _ => none

/-- Whether a wish is stated and counts. -/
def isWished (values : List (Text × Json)) (name : Text) : Bool :=
  match wish? values name with
  | some v => v.isTruthy
  | none => false

/-- The rules that the given values wish for. -/
def ofValues (values : List (Text × Json)) : VariableRules where
  start := (textWish? values "_env_prefix").getD []
  caseCounts := isWished values "_case_sensitive"
  skipsEmpty := isWished values "_env_ignore_empty"
  null := textWish? values "_env_parse_none_str"
  delimiter := (textWish? values "_env_nested_delimiter").getD []

/-- The form in which names are compared. -/
def key (r : VariableRules) (name : Text) : Text := if r.caseCounts then name else Text.lower name

/-- What the last of the variables for a setting holds. -/
def value? (r : VariableRules) (assigned : Variables) (name : Text) : Option Text :=
  let counts (v : Text × Option Text) : Bool :=
    r.key v.1 = r.key (r.start ++ name) && !(r.skipsEmpty && v.2 = some [])
  (assigned.reverse.find? counts).bind (·.2)

/-- Whether there are variables for parts of a setting. -/
def hasParts (r : VariableRules) (assigned : Variables) (name : Text) : Bool :=
  r.delimiter ≠ [] && assigned.any fun v =>
    (Text.dropPrefix? (r.key (r.start ++ name) ++ r.delimiter) (r.key v.1)).isSome &&
      !(r.skipsEmpty && v.2 = some [])

/-- What variables give for a list: JSON, or an object when there are only variables for parts. -/
def listValue? (r : VariableRules) (source : Text) (assigned : Variables) (name : Text) :
    Except LoadError (Option Json) :=
  match r.value? assigned name with
  | none => .ok (if r.hasParts assigned name then some (.obj []) else none)
  | some t =>
    if some t = r.null then .ok (some .null)
    else
      match Json.read t with
      | .error (.tooDeep what) => .error (.tooDeep what)
      | .error _ => .error (.notJson name source)
      | .ok .null => .ok none
      | .ok v => .ok (some v)

/-- What variables give for a field; a list that is JSON null gives nothing. -/
def fieldValue? (r : VariableRules) (source : Text) (assigned : Variables) (f : Field) :
    Except LoadError (Option Json) :=
  if f.isList then r.listValue? source assigned f.name
  else
    .ok ((r.value? assigned f.name).map fun t => if some t = r.null then .null else .str t)

/-- The fields that variables give. -/
def fields (r : VariableRules) (source : Text) (assigned : Variables) :
    List Field → Except LoadError (List (Text × Json))
  | [] => .ok []
  | f :: rest => do
    let value ← r.fieldValue? source assigned f
    let others ← r.fields source assigned rest
    pure (value.toList.map (f.name, ·) ++ others)

end VariableRules

/-! ## Variable files -/

/-- The files that are read for variables: the one of the working directory, unless the values wish
for others or for none. -/
def variablePaths (values : List (Text × Json)) : List Text :=
  match Json.field? "_env_file" values with
  | none => [".env"]
  | some (.str p) => [p]
  | some (.arr ps) => ps.filterMap fun
    | .str p => some p
    | _ => none
  | some _ => []

/-- The texts of the variable files that are there. -/
def variableFiles (t : Tree) (cwd : Location) (values : List (Text × Json)) :
    Except TextFileError (List Text) := do
  let texts ← (variablePaths values).mapM fun p => do
    match ← (t.look cwd (.ofText p)).mapError .file with
    | some (.file _) =>
      let name := (VariableRules.textWish? values "_env_file_encoding").getD "utf-8"
      let e ← (Encoding.ofName name).mapError .decode
      some <$> t.readText cwd e (.ofText p)
    | _ => pure none
  pure (texts.filterMap id)

/-! ## All sources -/

/-- The name of the environment in messages. -/
def environmentSource : Text := "EnvSettingsSource"

/-- The name of variable files in messages. -/
def fileSource : Text := "DotEnvSettingsSource"

/-- Settings from direct values, the environment, and variable files of the working directory. -/
def load (values : List (Text × Json)) (env : List (Text × Text)) (t : Tree) (cwd : Location) :
    Except LoadError Settings := do
  let files ← (variableFiles t cwd values).mapError .file
  let rules := VariableRules.ofValues values
  let fromEnv ← rules.fields environmentSource (env.map fun v => (v.1, some v.2)) fieldList
  let fromFile ← rules.fields fileSource (files.flatMap (VariableFile.read env)) fieldList
  (ofFields (values ++ fromEnv ++ fromFile)).mapError .invalid

end ModuleDocs.Settings
