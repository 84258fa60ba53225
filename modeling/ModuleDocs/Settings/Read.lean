import ModuleDocs.Settings.Basic
import ModuleDocs.Settings.Conversion

/-! # Reading settings

    Each setting is read from the field of its name.  All issues are
    reported, in the order of the settings; a field that is not there leaves
    the default, and unknown fields are passed over.  Upper and lower case are
    alike in names, and of several fields for a setting the first one counts. -/

namespace ModuleDocs.Settings

open Conversion

/-- How a setting is read into settings. -/
structure Field where
  /-- The name of the setting. -/
  name : Text
  /-- Whether its value is a list, which the environment gives as JSON. -/
  isList : Bool := false
  /-- Reads a value into settings. -/
  read : Json → Settings → Result Settings

/-- A setting read by a conversion and put by `put`. -/
def Field.of {α : Type} (name : Text) (convert : Json → Result α) (put : Settings → α → Settings) :
    Field where
  name := name
  read v s := (convert v).map (put s)

/-- A setting that is a list of texts. -/
def Field.ofTexts (name : Text) (put : Settings → List Text → Settings) : Field :=
  { Field.of name toTexts put with isList := true }

/-- The policy for repeated names. -/
def toPolicy : Json → Result DuplicatePolicy
  | .str t =>
    match DuplicatePolicy.ofName t with
    | .unknown _ => fail (.notOneOf "'reject' or 'last_wins'")
    | policy => .ok policy
  | _ => fail (.notOneOf "'reject' or 'last_wins'")

/-- The provider of a name. -/
def toProvider (v : Json) : Result Provider :=
  (toText v).bind fun name =>
    match Provider.ofName? name with
    | some provider => .ok provider
    | none => fail (.rejected (Provider.unknownMessage name))

/-- A path or nothing. -/
def toOptionalPath : Json → Result (Option Path)
  | .null => .ok none
  | .str t => .ok (some (.ofText t))
  | _ => fail .notAPath

/-- The temperature: from zero to two. -/
def toTemperature (v : Json) : Result Double :=
  require (fun x => Double.le (.ofInt 0) x && Double.le x (.ofInt 2))
    (fun x => if Double.le x (.ofInt 2) then .below ['0'] else .above ['2']) (toDouble v)

/-- A number above zero. -/
def toPositive (v : Json) : Result Double :=
  require (fun x => Double.lt (.ofInt 0) x) (fun _ => .tooSmall ['0']) (toDouble v)

/-- A whole number above zero. -/
def toPositiveInt (v : Json) : Result Int :=
  require (fun i => decide (0 < i)) (fun _ => .tooSmall ['0']) (toInt v)

/-- A whole number from a bound on. -/
def toIntFrom (bound : Nat) (v : Json) : Result Int :=
  require (fun i => decide ((bound : Int) ≤ i)) (fun _ => .below (Text.ofNat bound)) (toInt v)

/-- The settings, in their order. -/
def fieldList : List Field :=
  [ .of "scanner_type" toText fun s v => { s with scannerType := v },
    .of "scanner_quote_aware" toBool fun s v => { s with quoteAware := v },
    .of "duplicate_policy" toPolicy fun s v => { s with duplicatePolicy := v },
    .ofTexts "file_patterns" fun s v => { s with filePatterns := v },
    .ofTexts "exclude_dirs" fun s v => { s with excludeDirs := v },
    .of "github_repository" toOptionalText fun s v => { s with repository := v },
    .of "default_version_tag" toText fun s v => { s with defaultTag := v },
    .of "describer_type" toText fun s v => { s with describerType := v },
    .of "llm_fallback_to_heuristic" toBool fun s v => { s with fallBack := v },
    .of "ai_provider" toProvider fun s v => { s with provider := v },
    .of "ai_model" toOptionalText fun s v => { s with model := v },
    .of "ai_base_url" toOptionalText fun s v => { s with baseUrl := v },
    .of "ai_temperature" toTemperature fun s v => { s with temperature := v },
    .of "ai_max_tokens" toPositiveInt fun s v => { s with maxTokens := v },
    .of "ai_timeout" toPositive fun s v => { s with timeout := v },
    .of "ai_max_retries" (toIntFrom 0) fun s v => { s with maxRetries := v },
    .of "groq_api_key" toText fun s v => { s with groqApiKey := v },
    .of "github_token" toText fun s v => { s with githubToken := v },
    .of "openai_api_key" toText fun s v => { s with openaiApiKey := v },
    .of "anthropic_api_key" toText fun s v => { s with anthropicApiKey := v },
    .of "max_concurrency" (toIntFrom 1) fun s v => { s with maxConcurrency := v },
    .of "log_level" toText fun s v => { s with logLevel := Text.upper v },
    .of "log_dir" toOptionalPath fun s v => { s with logDir := v } ]

/-- An issue seen from the record that holds the field. -/
def within (name : Text) (i : Issue) : Issue := { i with place := .field name :: i.place }

/-- The first value that is given for a name, upper and lower case alike. -/
def first? (values : List (Text × Json)) (name : Text) : Option Json :=
  (values.find? fun v => Text.lower v.1 = name).map (·.2)

/-- Reads one field into what has been read so far: settings and issues. -/
def readField (values : List (Text × Json)) (acc : Settings × List Issue) (f : Field) :
    Settings × List Issue :=
  match first? values f.name with
  | none => acc
  | some v =>
    match f.read v acc.1 with
    | .ok s => (s, acc.2)
    | .error issues => (acc.1, acc.2 ++ issues.map (within f.name))

/-- Settings from the fields of an object, on top of the defaults. -/
def ofFields (values : List (Text × Json)) : Except (List Issue) Settings :=
  match fieldList.foldl (readField values) ({}, []) with
  | (s, []) => .ok s
  | (_, issues) => .error issues

end ModuleDocs.Settings
