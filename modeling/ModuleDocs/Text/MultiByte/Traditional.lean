import ModuleDocs.Text.CharGrid.Big5
import ModuleDocs.Text.CharGrid.Hkscs
import ModuleDocs.Text.MultiByte

/-! # Encodings of traditional Chinese

    A lead byte is followed by one of 157 bytes.  Windows and Hong Kong add
    characters, and read some pairs otherwise. -/

namespace ModuleDocs.MultiByte

open CharGrid

/-- The cell of a second byte. -/
def big5Cell? (b : Nat) : Option Nat :=
  if 0x40 ≤ b ∧ b ≤ 0x7E then some (b - 0x3F)
  else if 0xA1 ≤ b ∧ b ≤ 0xFE then some (b - 0xA1 + 64)
  else none

/-- The text of a pair in a grid. -/
def big5Pair? (g : CharGrid) (a b : Nat) : Option Text := (big5Cell? b).bind (g.get? a)

/-- The plain encoding. -/
def big5 : MultiByte where
  name := "big5"
  aliases := ["big5_tw", "csbig5", "x_mac_trad_chinese"]
  read := readPlainly (asciiOrPair (big5Pair? CharGrid.big5))

/-- The encoding on Windows. -/
def windows950 : MultiByte where
  name := "cp950"
  aliases := ["950", "ms950"]
  read := readPlainly <| asciiOrPair fun a b =>
    (big5Pair? windowsBig5 a b).or (big5Pair? CharGrid.big5 a b)

/-- The pairs of Hong Kong that stand for a letter and a mark above it. -/
def markedLetters : List ((Nat × Nat) × Text) :=
  [ ((0x88, 0x62), "\u00ca\u0304"),
    ((0x88, 0x64), "\u00ca\u030c"),
    ((0x88, 0xA3), "\u00ea\u0304"),
    ((0x88, 0xA5), "\u00ea\u030c") ]

/-- The text of a pair in Hong Kong, where some of the last pairs before the rarer characters do not
have their plain meaning. -/
def hongKongPair? (a b : Nat) : Option Text :=
  let isPlain := a < 0xC6 ∨ 0xC8 < a ∨ (a = 0xC6 ∧ b < 0xA1)
  let plain := if isPlain then big5Pair? CharGrid.big5 a b else none
  plain.or ((big5Pair? hkscs a b).or (markedLetters.lookup (a, b)))

/-- The encoding of Hong Kong. -/
def hongKong : MultiByte where
  name := "big5hkscs"
  aliases := ["big5_hkscs", "hkscs"]
  read := readPlainly (asciiOrPair hongKongPair?)

/-- The encodings of traditional Chinese. -/
def traditional : List MultiByte := [big5, windows950, hongKong]

end ModuleDocs.MultiByte
