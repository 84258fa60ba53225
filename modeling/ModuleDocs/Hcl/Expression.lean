import ModuleDocs.Text.Blank

/-! # Expressions

    An expression goes on to the end of its line, or to a comment there, but
    never ends while a bracket or a string that it opened is open.  A closing
    bracket of the enclosing block ends it at once. -/

namespace ModuleDocs.Hcl

/-- Where a character of an expression stands. -/
inductive ExpressionState where
  | code
  | quoted
  | escaped
deriving DecidableEq, Repr

/-- One of the three opening brackets. -/
def isOpening (c : Char) : Bool := c = '(' || c = '[' || c = '\x7b'

/-- One of the three closing brackets. -/
def isClosing (c : Char) : Bool := c = ')' || c = ']' || c = '\x7d'

/-- What ends an expression outside all brackets: a newline or the start of a comment. -/
def endsExpression (c : Char) (following : Option Char) : Bool :=
  c = '\n' || c = '#' || (c = '/' && following = some '/')

/-- The characters of an expression, while `depth` brackets are open. -/
def expressionSpan (s : ExpressionState) (depth : Nat) : Text → Text
  | [] => []
  | c :: t =>
    match s with
    | .escaped => c :: expressionSpan .quoted depth t
    | .quoted =>
      let next := if c = '\\' then .escaped else if c = '"' then .code else .quoted
      c :: expressionSpan next depth t
    | .code =>
      if c = '"' then c :: expressionSpan .quoted depth t
      else if isOpening c then c :: expressionSpan .code (depth + 1) t
      else if isClosing c then
        match depth with
        | 0 => []
        | depth + 1 => c :: expressionSpan .code depth t
      else if depth = 0 ∧ endsExpression c t.head? then []
      else c :: expressionSpan .code depth t

/-- The expression at the start of the text, without the white space around it. -/
def expressionOf (t : Text) : Text := Text.trim (expressionSpan .code 0 t)

/-- The expression that starts at an index. -/
def readExpression (text : Text) (position : Nat) : Text := expressionOf (text.drop position)

end ModuleDocs.Hcl
