import ModuleDocs.Text.Blank
import ModuleDocs.Text.PrintableTable

/-! # Quoted texts

    How a text is written inside a message: between single quotes, or double
    quotes when it holds a single quote and no double one, with a backslash
    before the quote and the backslash, and with unprintable characters
    written as escapes. -/

namespace ModuleDocs.Text

/-- Whether a character is shown as it is. -/
def isPrintable (c : Char) : Bool :=
  if c.toNat < 0x80 then 0x20 ≤ c.toNat && c.toNat < 0x7F else inRanges printableRanges c.toNat

/-- The hexadecimal digits of a number, with zeros before them up to a width. -/
def hex (width n : Nat) : Text :=
  let digits := Nat.toDigits 16 n
  List.replicate (width - digits.length) '0' ++ digits

/-- One character between the given quotes. -/
def escapeChar (quote c : Char) : Text :=
  if c = quote || c = '\\' then ['\\', c]
  else if c = '\n' then ['\\', 'n']
  else if c = '\r' then ['\\', 'r']
  else if c = '\t' then ['\\', 't']
  else if isPrintable c then [c]
  else if c.toNat < 0x100 then '\\' :: 'x' :: hex 2 c.toNat
  else if c.toNat < 0x10000 then '\\' :: 'u' :: hex 4 c.toNat
  else '\\' :: 'U' :: hex 8 c.toNat

/-- The text as a message shows it. -/
def quoted (t : Text) : Text :=
  let quote := if '\'' ∈ t && !('"' ∈ t) then '"' else '\''
  quote :: t.flatMap (escapeChar quote) ++ [quote]

/-- A list of texts as a message shows it. -/
def quotedList (ts : List Text) : Text := '[' :: join ", " (ts.map quoted) ++ [']']

end ModuleDocs.Text
