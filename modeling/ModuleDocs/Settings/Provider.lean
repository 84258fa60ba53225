import ModuleDocs.Text.Case

/-! # Providers of chat services -/

namespace ModuleDocs

/-- A provider of a chat service. -/
inductive Provider where
  | groq
  | github
  | openai
  | anthropic
deriving DecidableEq, Repr

namespace Provider

/-- All providers, in the order in which they are listed. -/
def all : List Provider := [groq, github, openai, anthropic]

/-- The name by which settings choose a provider. -/
def key : Provider → Text
  | groq => "groq"
  | github => "github"
  | openai => "openai"
  | anthropic => "anthropic"

/-- The name shown to people. -/
def displayName : Provider → Text
  | groq => "Groq"
  | github => "GitHub Models"
  | openai => "OpenAI"
  | anthropic => "Anthropic Claude"

/-- The address of the service. -/
def baseUrl : Provider → Text
  | groq => "https://api.groq.com/openai/v1"
  | github => "https://models.inference.ai.azure.com"
  | openai => "https://api.openai.com/v1"
  | anthropic => "https://api.anthropic.com/v1/"

/-- The model asked when none is chosen. -/
def defaultModel : Provider → Text
  | groq => "llama-3.3-70b-versatile"
  | github => "gpt-4o"
  | openai => "gpt-4o"
  | anthropic => "claude-sonnet-4-20250514"

/-- The setting that holds the key for the service. -/
def keySetting : Provider → Text
  | groq => "groq_api_key"
  | github => "github_token"
  | openai => "openai_api_key"
  | anthropic => "anthropic_api_key"

/-- The provider of a name, upper and lower case alike. -/
def ofName? (name : Text) : Option Provider := all.find? (·.key = Text.lower name)

/-- Why a name is refused. -/
def unknownMessage (name : Text) : Text :=
  "Unknown AI provider: " ++ Text.lower name ++ ". Available: " ++ Text.join ", " (all.map key)

end Provider

end ModuleDocs
