import ModuleDocs.Describe.Heuristic
import ModuleDocs.Describe.Prompt
import ModuleDocs.Describe.Reply

/-! # Describers

    A module is described from its declarations alone, or by asking a chat
    service.  A chat describer may fall back on the declarations when the
    service fails or its reply is of no use. -/

namespace ModuleDocs

/-- A number as it was given: an integer stays one. -/
inductive Number where
  | int (i : Int)
  | float (x : Double)
deriving DecidableEq, Repr

/-- The text of a number. -/
def Number.text : Number → Text
  | int i => Text.ofInt i
  | float x => Double.standard.text x

/-- How a chat service is reached and asked. -/
structure ChatOptions where
  apiKey : Text
  model : Text := "gpt-4o"
  baseUrl : Option Text := none
  temperature : Number := .float (.ofDecimal false 1 (-1))
  maxTokens : Int := 4000
  timeout : Number := .float (.ofDecimal false 60 0)
  maxRetries : Int := 3
  providerName : Text := "OpenAI"
deriving DecidableEq, Repr

/-- One request to a chat service. -/
structure ChatRequest where
  model : Text
  temperature : Number
  maxTokens : Int
  system : Text
  user : Text
deriving DecidableEq, Repr

/-- What a chat service does with a request: it answers with a text or none, it answers without any
choice, or it fails. -/
inductive ChatAnswer where
  | text (content : Option Text)
  | noChoices
  | failure (message : Text)
deriving DecidableEq, Repr

/-- A chat service. -/
abbrev ChatClient := ChatRequest → ChatAnswer

/-- Why asking a chat service gave no description. -/
inductive ChatError where
  | emptyResponse
  | noChoices
  | service (message : Text)
  | reply (error : ReplyError)
deriving DecidableEq, Repr

namespace ChatError

/-- The wording of an error. -/
def message (provider : Text) : ChatError → Text
  | emptyResponse => "Empty response from " ++ provider
  | noChoices => "list index out of range"
  | service message => message
  | reply error => error.message

/-- Whether the error is about the content of the response, not about the service. -/
def isAboutContent : ChatError → Bool
  | emptyResponse => true
  | reply error => error.isExpected
  | _ => false

/-- The wording outside the describer: errors that are not about the content name the service. -/
def report (provider : Text) (e : ChatError) : Text :=
  if e.isAboutContent then e.message provider
  else provider ++ " API error: " ++ e.message provider

end ChatError

/-- A way to describe modules. -/
inductive Describer where
  | heuristic
  | chat (options : ChatOptions) (fallback : Bool)
deriving DecidableEq, Repr

namespace ChatOptions

/-- The request about a module. -/
def request (o : ChatOptions) (c : ModuleContext) : ChatRequest :=
  ⟨o.model, o.temperature, o.maxTokens, Prompt.system, Prompt.user c⟩

/-- The description in an answer. -/
def interpret : ChatAnswer → Logged (Except ChatError Description)
  | .text none => pure (.error .emptyResponse)
  | .text (some []) => pure (.error .emptyResponse)
  | .text (some content) => (Except.mapError .reply) <$> Reply.description content
  | .noChoices => pure (.error .noChoices)
  | .failure message => pure (.error (.service message))

/-- What an answer about a module comes to: its description, the fallback or an error. -/
def conclude (o : ChatOptions) (fallback : Bool) (c : ModuleContext) (answer : ChatAnswer) :
    Logged (Except Text Description) :=
  let asked := interpret answer
  match asked.value with
  | .ok d => ⟨.ok d, asked.log⟩
  | .error e =>
    let failed : Entry :=
      ⟨.error, "LLM description failed for '" ++ c.info.name ++ "': " ++ e.message o.providerName⟩
    if fallback then
      ⟨.ok (Heuristic.describe c),
        asked.log ++
          [failed, ⟨.warning, "Falling back to heuristic for '" ++ c.info.name ++ "'"⟩]⟩
    else ⟨.error (e.report o.providerName), asked.log ++ [failed]⟩

end ChatOptions

namespace Describer

/-- The name of a describer. -/
def name : Describer → Text
  | heuristic => "heuristic"
  | chat o _ => o.providerName ++ " (" ++ o.model ++ ")"

/-- The requests that describing a module makes. -/
def requests (d : Describer) (c : ModuleContext) : List ChatRequest :=
  match d with
  | heuristic => []
  | chat o _ => [o.request c]

/-- Describes a module by way of a client whose answers may have effects: the description, or the
wording of the failure. -/
def describeVia {m : Type → Type} [Monad m] (d : Describer) (ask : ChatRequest → m ChatAnswer)
    (c : ModuleContext) : m (Logged (Except Text Description)) :=
  match d with
  | heuristic => pure (pure (.ok (Heuristic.describe c)))
  | chat o fallback => do
    let answer ← ask (o.request c)
    pure (o.conclude fallback c answer)

/-- The description of a module, or the wording of the failure. -/
def describe (d : Describer) (client : ChatClient) (c : ModuleContext) :
    Logged (Except Text Description) :=
  d.describeVia (m := Id) client c

end Describer

end ModuleDocs
