import ModuleDocs.Hcl.Literal

/-! # Conditions

    Three patterns are recognised in the text of a condition; nothing is
    evaluated.  `contains([...], var.n)` lists values of `n`; `var.n == "v"`
    and `var.n != "v"` compare `n` with a value; and `n = "v"`, with or
    without `var.`, states a value. -/

namespace ModuleDocs.Condition

open Text

/-- The matches of `read` from left to right, none overlapping another.  The next `skip`
characters belong to the match found last. -/
def matchesFrom {α : Type} (read : Text → Option (α × Text)) (skip : Nat) : Text → List α
  | [] => []
  | c :: t =>
    match skip with
    | skip + 1 => matchesFrom read skip t
    | 0 =>
      match read (c :: t) with
      | some (a, rest) => a :: matchesFrom read (t.length - rest.length) t
      | none => matchesFrom read 0 t

/-- The matches of `read` from left to right, none overlapping another. -/
def allMatches {α : Type} (read : Text → Option (α × Text)) (t : Text) : List α :=
  matchesFrom read 0 t

/-- The body of a string literal and the text after it.  A line may end inside the literal, but
not after a backslash. -/
def stringLiteral? : Text → Option (Text × Text)
  | '"' :: t => Hcl.quotedBody? '"' (fun _ => true) (· != '\n') t
  | _ => none

/-- The text after `mark`, white space skipped before it. -/
def afterMark? (mark t : Text) : Option Text := dropPrefix? mark (trimStart t)

/-- A call `contains([list], var.name)`: the text of the list and the name, and what follows. -/
def containsCall? (t : Text) : Option ((Text × Text) × Text) := do
  let t ← dropPrefix? "contains" t
  let t ← afterMark? ['('] t
  let t ← afterMark? ['['] t
  let list := t.takeWhile (· != ']')
  let t ← dropPrefix? [']'] (t.dropWhile (· != ']'))
  let t ← afterMark? [','] t
  let t ← afterMark? "var." t
  let (name, t) ← identifier? t
  let t ← afterMark? [')'] t
  some ((list, name), t)

/-- A comparison `var.name == "value"` or `var.name != "value"`: the body of the value. -/
def comparison? (name t : Text) : Option (Text × Text) := do
  let t ← dropPrefix? ("var." ++ name) t
  let t ← (afterMark? "!=" t).or (afterMark? "==" t)
  stringLiteral? (trimStart t)

/-- The values listed by the calls of `contains` on a variable, in order, each once. -/
def listedValues (condition name : Text) : List Text :=
  ((allMatches containsCall? condition).flatMap fun (list, of) =>
    if of = name then allMatches stringLiteral? list else []).eraseDups

/-- The values that a condition compares a variable with, then those listed for it, each once. -/
def referencedValues (condition name : Text) : List Text :=
  (allMatches (comparison? name) condition ++ listedValues condition name).eraseDups

/-- The name and value of a condition `name = "value"` or `name == "value"`. -/
def stated? (condition : Text) : Option (Text × Text) := do
  let t := trimStart condition
  let t := (dropPrefix? "var." t).getD t
  let (name, t) ← identifier? t
  let t ← afterMark? ['='] t
  let t := (dropPrefix? ['='] t).getD t
  let t ← afterMark? ['"'] t
  let _ ← dropPrefix? ['"'] (t.dropWhile (· != '"'))
  some (name, t.takeWhile (· != '"'))

/-- The condition that a variable has a value. -/
def equals (name value : Text) : Text := name ++ " = \"" ++ value ++ ['"']

end ModuleDocs.Condition
