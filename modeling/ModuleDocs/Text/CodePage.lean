import ModuleDocs.Text.ByteFault

/-! # Code pages

    A code page gives each byte one character, or none.  Most keep the first
    128 code points as they are and differ in what the other bytes stand
    for. -/

namespace ModuleDocs

/-- A code page. -/
structure CodePage where
  name : Text
  /-- Other names of the page. -/
  aliases : List Text := []
  /-- The first byte that the rows speak of; those below it stand for the code points of their
  number. -/
  first : Nat := 0x80
  /-- The characters of the bytes from the first on; U+FFFE stands where a byte has none. -/
  rows : List String

namespace CodePage

/-- The characters of the rows, one after the other. -/
def characters (p : CodePage) : Text := p.rows.flatMap String.toList

/-- The character that a byte has in a table that begins at `first`. -/
def lookUp? (first : Nat) (table : Array Char) (byte : Nat) : Option Char :=
  if byte < first then some (Char.ofNat byte)
  else match table[byte - first]? with
    | some '\ufffe' => none
    | c => c

/-- Reads bytes from the index `i` on by a table. -/
def readFrom (first : Nat) (table : Array Char) (i : Nat) :
    List UInt8 → Except Text.ByteFault Text
  | [] => .ok []
  | b :: bytes =>
    match lookUp? first table b.toNat with
    | some c => (c :: ·) <$> readFrom first table (i + 1) bytes
    | none => .error ⟨i, 1, b.toNat⟩

/-- The text of bytes. -/
def read (p : CodePage) (bytes : List UInt8) : Except Text.ByteFault Text :=
  readFrom p.first p.characters.toArray 0 bytes

end CodePage

end ModuleDocs
