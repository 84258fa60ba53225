import ModuleDocs.Hcl.Declaration
import ModuleDocs.Log
import ModuleDocs.Text.Quoted

/-! # Repeated names

    A module should declare each name once.  Either repeats are refused, or
    the last declaration of a name stands for it. -/

namespace ModuleDocs

/-- What is done about repeated names. -/
inductive DuplicatePolicy where
  | reject
  | lastWins
  | unknown (name : Text)
deriving DecidableEq, Repr

/-- The policy of a name. -/
def DuplicatePolicy.ofName (name : Text) : DuplicatePolicy :=
  if name = "reject" then .reject
  else if name = "last_wins" then .lastWins
  else .unknown name

/-- Why repeated names are not resolved. -/
inductive DuplicateError where
  | rejected (names : List Text)
  | unknownPolicy (name : Text)
deriving DecidableEq, Repr

/-- The wording of an error. -/
def DuplicateError.message : DuplicateError → Text
  | rejected names => "Duplicate declarations: " ++ Text.join ", " names
  | unknownPolicy name =>
    "Unknown duplicate policy: " ++ name ++ ". Valid options: 'reject', 'last_wins'"

/-- The names that occur more than once, each once, in order. -/
def repeatedNames (ds : List Declaration) : List Text :=
  let names := ds.map (·.name)
  Text.sort (names.eraseDups.filter fun name => 1 < names.count name)

/-- The declarations that no later one of the same name follows. -/
def lastOccurrences : List Declaration → List Declaration
  | [] => []
  | d :: ds =>
    if ds.any (·.name = d.name) then lastOccurrences ds else d :: lastOccurrences ds

/-- The declarations with each name once, or the reason why not. -/
def resolveDuplicates (policy : DuplicatePolicy) (ds : List Declaration) :
    Logged (Except DuplicateError (List Declaration)) :=
  let names := repeatedNames ds
  if names = [] then pure (.ok ds)
  else match policy with
    | .reject =>
      ⟨.error (.rejected names),
        [⟨.error, "Duplicate declaration names rejected: " ++ Text.quotedList names⟩]⟩
    | .lastWins =>
      .warn (.ok (lastOccurrences ds))
        ("Duplicate declaration names, keeping last occurrence: " ++ Text.quotedList names)
    | .unknown name => pure (.error (.unknownPolicy name))

end ModuleDocs
