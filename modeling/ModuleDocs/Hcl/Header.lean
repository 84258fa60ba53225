import ModuleDocs.Text.Blank

/-! # Headers of declarations

    A header stands at the start of a line: blanks, the keyword, at least one
    blank, a name in double quotes, blanks and an opening brace.  Headers are
    found from left to right and do not overlap. -/

namespace ModuleDocs.Hcl

open Text

/-- A header: the declared name and the index of its opening brace. -/
structure Header where
  name : Text
  brace : Nat
deriving DecidableEq, Repr

namespace Header

/-- What follows a keyword: blanks, the name in quotes, blanks.  Gives the name and the text from
the brace on. -/
def afterKeyword? : Text → Option (Text × Text)
  | [] => none
  | b :: t =>
    if isBlank b then
      match skipBlanks t with
      | '"' :: t =>
        let name := t.takeWhile (· != '"')
        if name = [] then none
        else match t.dropWhile (· != '"') with
          | [] => none
          | _ :: t =>
            match skipBlanks t with
            | '\x7b' :: t => some (name, '\x7b' :: t)
            | _ => none
      | _ => none
    else none

/-- A header at the start of the text: its name and the text from the brace on. -/
def at? (keyword : Text) (t : Text) : Option (Text × Text) :=
  match (dropPrefix? keyword t).bind afterKeyword? with
  | some found => some found
  | none =>
    match t with
    | [] => none
    | c :: t => if isBlank c then at? keyword t else none

/-- The headers from `index` on.  `lineStart` says whether a line begins here, and the next `skip`
characters belong to the header found last. -/
def findFrom (keyword : Text) (index : Nat) (lineStart : Bool) (skip : Nat) : Text → List Header
  | [] => []
  | c :: t =>
    match skip with
    | skip + 1 => findFrom keyword (index + 1) (c = '\n') skip t
    | 0 =>
      match if lineStart then at? keyword (c :: t) else none with
      | some (name, rest) =>
        let length := (c :: t).length - rest.length
        ⟨name, index + length⟩ :: findFrom keyword (index + 1) (c = '\n') length t
      | none => findFrom keyword (index + 1) (c = '\n') 0 t

/-- The headers of one keyword, in the order of the text. -/
def find (text keyword : Text) : List Header := findFrom keyword 0 true 0 text

end Header

end ModuleDocs.Hcl
