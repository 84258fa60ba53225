import ModuleDocs.Text.ByteFault
import ModuleDocs.Text.CharacterName

/-! # Texts with escapes

    Bytes stand for the first 256 code points, but a backslash begins an
    escape.  In the raw form there are only the two escapes that give a code
    point by four or eight digits; everything else is left as it is. -/

namespace ModuleDocs.Text

/-- What is wrong with an escape. -/
inductive EscapeCause where
  | atEnd
  /-- After this letter that many digits should follow. -/
  | truncated (letter : Char) (digits : Nat)
  | tooLarge
  | malformedName
  | unknownName
deriving DecidableEq, Repr

/-- An escape that cannot be read. -/
structure EscapeFault where
  raw : Bool
  cause : EscapeCause
  bytes : ByteFault
deriving DecidableEq, Repr

/-- The value of a hexadecimal digit. -/
def hexDigit? (b : Nat) : Option Nat :=
  if 0x30 ≤ b ∧ b ≤ 0x39 then some (b - 0x30)
  else if 0x41 ≤ b ∧ b ≤ 0x46 then some (b - 0x41 + 10)
  else if 0x61 ≤ b ∧ b ≤ 0x66 then some (b - 0x61 + 10)
  else none

/-- The values of the digits at the start, at most so many. -/
def hexDigits (count : Nat) (bytes : List Nat) : List Nat :=
  ((bytes.take count).map hexDigit?).takeWhile Option.isSome |>.reduceOption

/-- What an escape gives and how many bytes it takes after the backslash; or what is wrong, and how
many of these bytes are at fault. -/
abbrev EscapeResult := Except (EscapeCause × Nat) (Text × Nat)

/-- The escape of a code point with so many digits after a letter. -/
def codePointEscape (letter : Char) (count : Nat) (bytes : List Nat) : EscapeResult :=
  let digits := hexDigits count bytes
  let n := digits.foldl (fun n d => 16 * n + d) 0
  if digits.length < count then .error (.truncated letter count, digits.length + 1)
  else if 0x10FFFF < n then .error (.tooLarge, count + 1)
  else .ok ([Char.ofNat n], count + 1)

/-- The escape of a code point with up to three digits of base eight. -/
def octalEscape (bytes : List Nat) : EscapeResult :=
  let digits := (bytes.take 3).takeWhile fun b => 0x30 ≤ b && b ≤ 0x37
  .ok ([Char.ofNat (digits.foldl (fun n b => 8 * n + (b - 0x30)) 0)], digits.length)

/-- The escape of a character by its name, after its letter. -/
def nameEscape : List Nat → EscapeResult
  | 0x7B :: bytes =>
    let name := bytes.takeWhile (· ≠ 0x7D)
    if name.length = bytes.length then .error (.malformedName, name.length + 2)
    else if name = [] then .error (.malformedName, 2)
    else match CharacterName.find? (name.map Char.ofNat) with
      | some code => .ok ([Char.ofNat code], name.length + 3)
      | none => .error (.unknownName, name.length + 3)
  | _ => .error (.malformedName, 1)

/-- The character that a letter stands for after a backslash. -/
def escapedChar? : Char → Option Char
  | '\\' => some '\\'
  | '\'' => some '\''
  | '"' => some '"'
  | 'a' => some '\x07'
  | 'b' => some '\x08'
  | 't' => some '\t'
  | 'n' => some '\n'
  | 'v' => some '\x0b'
  | 'f' => some '\x0c'
  | 'r' => some '\r'
  | _ => none

/-- The escape after a backslash. -/
def escape : List Nat → EscapeResult
  | [] => .error (.atEnd, 0)
  | b :: bytes =>
    match Char.ofNat b with
    | '\n' => .ok ([], 1)
    | 'x' => codePointEscape 'x' 2 bytes
    | 'u' => codePointEscape 'u' 4 bytes
    | 'U' => codePointEscape 'U' 8 bytes
    | 'N' => nameEscape bytes
    | c =>
      if 0x30 ≤ b ∧ b ≤ 0x37 then octalEscape (b :: bytes)
      else match escapedChar? c with
        | some c => .ok ([c], 1)
        | none => .ok (['\\', c], 1)

/-- The escape after a backslash in the raw form. -/
def rawEscape : List Nat → EscapeResult
  | [] => .ok (['\\'], 0)
  | b :: bytes =>
    match Char.ofNat b with
    | 'u' => codePointEscape 'u' 4 bytes
    | 'U' => codePointEscape 'U' 8 bytes
    | c => .ok (['\\', c], 1)

/-- Reads bytes from the index `i` on.  The next `skip` bytes belong to the escape before. -/
def readEscapesFrom (raw : Bool) (i skip : Nat) : List Nat → Except EscapeFault Text
  | [] => .ok []
  | b :: bytes =>
    match skip with
    | skip + 1 => readEscapesFrom raw (i + 1) skip bytes
    | 0 =>
      if b ≠ 0x5C then (Char.ofNat b :: ·) <$> readEscapesFrom raw (i + 1) 0 bytes
      else match (if raw then rawEscape else escape) bytes with
        | .ok (t, count) => (t ++ ·) <$> readEscapesFrom raw (i + 1) count bytes
        | .error (cause, count) => .error ⟨raw, cause, ⟨i, count + 1, b⟩⟩

end ModuleDocs.Text
