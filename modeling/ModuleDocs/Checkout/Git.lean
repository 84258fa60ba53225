import ModuleDocs.Text.Encoding
import ModuleDocs.Text.Word

/-! # Version control

    Three things are asked of the version control program: two where the run
    was started, and one in the directory of a module.  It may have no answer;
    a blank answer counts as none. -/

namespace ModuleDocs

/-- What the version control program is asked. -/
inductive GitQuery where
  | latestTag
  | originUrl
  | topLevel (directory : Text)
deriving DecidableEq, Repr

/-- The arguments that ask a question. -/
def GitQuery.arguments : GitQuery → Text
  | latestTag => "describe --tags --abbrev=0"
  | originUrl => "remote get-url origin"
  | topLevel _ => "rev-parse --show-toplevel"

/-- What the program prints for each question, when it succeeds. -/
abbrev Git := GitQuery → Option Text

namespace Git

/-- A version control program that knows nothing. -/
def silent : Git := fun _ => none

/-- The trimmed answer to a question, when there is one that is not blank. -/
def answer? (git : Git) (q : GitQuery) : Option Text :=
  match (git q).map fun printed => Text.trim (Text.withNewlines printed) with
  | some [] => none
  | answer => answer

end Git

/-! ## The repository of an address

    An address names the repository as `github.com/owner/name` or
    `github.com:owner/name`; the name ends before a dot, a slash or white
    space. -/

namespace Repository

/-- Whether a character may stand in the name of a repository. -/
def isNameChar (c : Char) : Bool := !(c = '/' || c = '.' || Text.isSpace c)

/-- The owner and name of a repository when its address begins here. -/
def namedAt? (t : Text) : Option Text := do
  let t ← Text.dropPrefix? "github.com" t
  let t ← (Text.dropPrefix? [':'] t).or (Text.dropPrefix? ['/'] t)
  let owner := t.takeWhile (· ≠ '/')
  let rest ← Text.dropPrefix? ['/'] (t.dropWhile (· ≠ '/'))
  let name := rest.takeWhile isNameChar
  if owner = [] ∨ name = [] then none else some (owner ++ '/' :: name)

/-- The owner and name of the first repository in a text. -/
def named? : Text → Option Text
  | [] => none
  | c :: t =>
    match namedAt? (c :: t) with
    | some repository => some repository
    | none => named? t

/-- The repository shown when none is known. -/
def unknown : Text := "owner/repo"

end Repository

end ModuleDocs
