import ModuleDocs.Json.Reader
import ModuleDocs.Usage.Description

/-! # Replies of the chat service

    A reply is the JSON text of an object, often inside a Markdown fence.
    Fence marks are removed wherever they stand before the text is read. -/

namespace ModuleDocs

/-- Why a reply gives no description. -/
inductive ReplyError where
  | unreadable (error : Json.ReadError)
  | notAnObject (kind : Text)
  | notIterable (kind : Text)
deriving DecidableEq, Repr

namespace ReplyError

/-- The wording of an error. -/
def message : ReplyError → Text
  | unreadable (.fault what line column offset) =>
    let fault := Json.ReadError.fault what line column offset
    "Failed to parse AI response as JSON: " ++ fault.message
  | unreadable error => error.message
  | notAnObject kind => "AI response is a " ++ kind ++ ", expected an object"
  | notIterable kind => notIterableMessage kind

/-- Whether the error is one that replies are expected to have: text that is not JSON, or JSON that
is not an object. -/
def isExpected : ReplyError → Bool
  | unreadable (.fault ..) => true
  | unreadable _ => false
  | notAnObject _ => true
  | notIterable _ => false

end ReplyError

namespace Reply

/-- Three backquotes. -/
def fenceMark : Text := List.replicate 3 '\x60'

/-- The text after a fence mark at its start: the mark, the word `json`, blanks and a newline, all
but the mark optional. -/
def afterFence? (t : Text) : Option Text :=
  (Text.dropPrefix? fenceMark t).map fun t =>
    let t := (Text.dropPrefix? "json" t).getD t
    match Text.skipBlanks t with
    | '\n' :: t => t
    | t => t

/-- The text without its fence marks.  The next `skip` characters belong to the mark found last. -/
def removeFencesFrom (skip : Nat) : Text → Text
  | [] => []
  | c :: t =>
    match skip with
    | skip + 1 => removeFencesFrom skip t
    | 0 =>
      match afterFence? (c :: t) with
      | some rest => removeFencesFrom (t.length - rest.length) t
      | none => c :: removeFencesFrom 0 t

/-- The text without its fence marks. -/
def removeFences (t : Text) : Text := removeFencesFrom 0 t

/-- The description that a reply gives. -/
def description (reply : Text) : Logged (Except ReplyError Description) :=
  match Json.read (Text.trim (removeFences reply)) with
  | .error e => pure (.error (.unreadable e))
  | .ok (.obj fields) => (Except.mapError .notIterable) <$> Description.ofFields fields
  | .ok v => pure (.error (.notAnObject v.kind))

end Reply

end ModuleDocs
