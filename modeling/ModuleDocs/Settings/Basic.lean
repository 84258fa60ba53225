import ModuleDocs.Describe.Describer
import ModuleDocs.Files.Path
import ModuleDocs.Settings.Provider

/-! # Settings

    All choices of a run, with their defaults, and what follows from them. -/

namespace ModuleDocs

/-- The settings of a run. -/
structure Settings where
  scannerType : Text := "hcl_regex"
  quoteAware : Bool := false
  duplicatePolicy : DuplicatePolicy := .reject
  filePatterns : List Text := ["*.tf"]
  excludeDirs : List Text := [".git", "node_modules", ".terraform", "vendor", "__pycache__"]
  repository : Option Text := none
  defaultTag : Text := "v0.0.0"
  describerType : Text := "openai"
  fallBack : Bool := true
  provider : Provider := .groq
  model : Option Text := none
  baseUrl : Option Text := none
  temperature : Double := .ofDecimal false 1 (-1)
  maxTokens : Int := 4000
  timeout : Double := .ofDecimal false 60 0
  maxRetries : Int := 3
  groqApiKey : Text := []
  githubToken : Text := []
  openaiApiKey : Text := []
  anthropicApiKey : Text := []
  maxConcurrency : Int := 4
  logLevel : Text := "INFO"
  logDir : Option Path := none
deriving DecidableEq, Repr

namespace Settings

/-- A text that was given and is not empty. -/
def given? : Option Text → Option Text
  | some [] => none
  | t => t

/-- The model to ask. -/
def resolvedModel (s : Settings) : Text := (given? s.model).getD s.provider.defaultModel

/-- The address of the service to ask. -/
def resolvedBaseUrl (s : Settings) : Text := (given? s.baseUrl).getD s.provider.baseUrl

/-- The key for the chosen provider, possibly empty. -/
def apiKey (s : Settings) : Text :=
  match s.provider with
  | .groq => s.groqApiKey
  | .github => s.githubToken
  | .openai => s.openaiApiKey
  | .anthropic => s.anthropicApiKey

/-- Which braces count. -/
def braceMode (s : Settings) : Hcl.BraceMode := if s.quoteAware then .quoteAware else .plain

/-- How the chosen service is asked. -/
def chatOptions (s : Settings) : ChatOptions where
  apiKey := s.apiKey
  model := s.resolvedModel
  baseUrl := some s.resolvedBaseUrl
  temperature := .float s.temperature
  maxTokens := s.maxTokens
  timeout := .float s.timeout
  maxRetries := s.maxRetries
  providerName := s.provider.displayName

end Settings

end ModuleDocs
