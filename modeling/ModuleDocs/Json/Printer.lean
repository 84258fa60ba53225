import ModuleDocs.Json.Value

/-! # Writing JSON

    Values are written in ASCII: what lies outside is escaped in units of
    sixteen bits.  The compact form keeps a value on one line; the indented
    form gives each item and each field a line of its own. -/

namespace ModuleDocs.Json

/-- One escaped unit of sixteen bits. -/
def unit (n : Nat) : Text := '\\' :: 'u' :: Text.hex 4 n

/-- A character inside a written string. -/
def encodeChar (c : Char) : Text :=
  match c with
  | '"' => ['\\', '"']
  | '\\' => ['\\', '\\']
  | '\n' => ['\\', 'n']
  | '\r' => ['\\', 'r']
  | '\t' => ['\\', 't']
  | '\x08' => ['\\', 'b']
  | '\x0c' => ['\\', 'f']
  | c =>
    let n := c.toNat
    if 0x20 ≤ n ∧ n ≤ 0x7E then [c]
    else if n < 0x10000 then unit n
    else unit (0xD800 + (n - 0x10000) / 0x400) ++ unit (0xDC00 + (n - 0x10000) % 0x400)

/-- A written string. -/
def encodeText (t : Text) : Text := '"' :: t.flatMap encodeChar ++ ['"']

/-- A written number, truth value or null. -/
def encodeScalar : Json → Text
  | bool b => if b then "true" else "false"
  | int i => Text.ofInt i
  | float .undefined => "NaN"
  | float (.infinite s) => if s then "-Infinity" else "Infinity"
  | float x => Double.standard.text x
  | str t => encodeText t
  | _ => "null"

mutual

/-- The value on one line. -/
def compact : Json → Text
  | arr items => '[' :: Text.join ", " (compactItems items) ++ [']']
  | obj fields => '\x7b' :: Text.join ", " (compactFields fields) ++ ['\x7d']
  | v => encodeScalar v

/-- The items of a list, each on one line. -/
def compactItems : List Json → List Text
  | [] => []
  | v :: rest => compact v :: compactItems rest

/-- The fields of an object, each on one line. -/
def compactFields : List (Text × Json) → List Text
  | [] => []
  | (k, v) :: rest => (encodeText k ++ ": " ++ compact v) :: compactFields rest

end

/-- Parts on lines of their own between two brackets; `margin` is the indent of the closing one. -/
def block (opening closing : Char) (margin : Nat) (parts : List Text) : Text :=
  if parts = [] then [opening, closing]
  else
    let newline (width : Nat) : Text := '\n' :: List.replicate width ' '
    opening :: newline (margin + 2) ++ Text.join (',' :: newline (margin + 2)) parts ++
      newline margin ++ [closing]

mutual

/-- The value with two spaces of indent for each level, `margin` being the indent it stands at. -/
def indented (margin : Nat) : Json → Text
  | arr items => block '[' ']' margin (indentedItems (margin + 2) items)
  | obj fields => block '\x7b' '\x7d' margin (indentedFields (margin + 2) fields)
  | v => encodeScalar v

/-- The items of a list, each indented. -/
def indentedItems (margin : Nat) : List Json → List Text
  | [] => []
  | v :: rest => indented margin v :: indentedItems margin rest

/-- The fields of an object, each indented. -/
def indentedFields (margin : Nat) : List (Text × Json) → List Text
  | [] => []
  | (k, v) :: rest => (encodeText k ++ ": " ++ indented margin v) :: indentedFields margin rest

end

end ModuleDocs.Json
