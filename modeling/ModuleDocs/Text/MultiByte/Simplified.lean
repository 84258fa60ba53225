import ModuleDocs.Text.CharGrid.Gb2312
import ModuleDocs.Text.CharGrid.GbExtension
import ModuleDocs.Text.MultiByte

/-! # Encodings of simplified Chinese

    Each of the three holds the one before it: a set of pairs, the pairs for
    all ideographs of the first versions of Unicode, and sequences of four
    bytes for everything else. -/

namespace ModuleDocs.MultiByte

open CharGrid

/-- The main set alone. -/
def gb2312 : MultiByte where
  name := "gb2312"
  aliases := ["chinese", "csiso58gb231280", "euc_cn", "euccn", "eucgb2312_cn", "gb2312_1980",
    "gb2312_80", "iso_ir_58", "x_mac_simp_chinese"]
  read := readPlainly (asciiOrPair (highPair? CharGrid.gb2312))

/-- The ideographs of the first versions of Unicode that the main set lacks. -/
def furtherIdeographs : Array Nat := CharGrid.gb2312.rest 0x4E00 20902

/-- The cell of a second byte in the wider range. -/
def wideCell? (b : Nat) : Option Nat :=
  if 0x40 ≤ b ∧ b ≤ 0x7E then some (b - 0x3F)
  else if 0x80 ≤ b ∧ b ≤ 0xFE then some (b - 0x40)
  else none

/-- The ideograph of a cell outside the main set: rows of 190 cells before it, and of 96 beside
it. -/
def furtherIdeograph? (a cell : Nat) : Option Text :=
  if 0x81 ≤ a ∧ a ≤ 0xA0 then
    (furtherIdeographs[(a - 0x81) * 190 + cell - 1]?).map fun c => [Char.ofNat c]
  else if 0xAA ≤ a ∧ cell ≤ 96 then
    (furtherIdeographs[32 * 190 + (a - 0xAA) * 96 + cell - 1]?).map fun c => [Char.ofNat c]
  else none

/-- The text of a pair in the wider range. -/
def gbkPair? (a b : Nat) : Option Text :=
  (wideCell? b).bind fun cell =>
    (gbkExtra.get? a cell).or ((highPair? CharGrid.gb2312 a b).or (furtherIdeograph? a cell))

/-- The set of all pairs. -/
def gbk : MultiByte where
  name := "gbk"
  aliases := ["936", "cp936", "ms936"]
  read := readPlainly (asciiOrPair gbkPair?)

/-- The text of a cell in the runs for private use. -/
def runCell? (a cell : Nat) : Option Text :=
  gb18030Runs.findSome? fun (row, first, code, count) =>
    if row = a ∧ first ≤ cell ∧ cell < first + count then some [Char.ofNat (code + (cell - first))]
    else none

/-- The text of a pair, private use included. -/
def gb18030Pair? (a b : Nat) : Option Text :=
  (gbkPair? a b).or ((wideCell? b).bind (runCell? a))

/-- The text of four bytes, given the number that they stand for. -/
def ofNumber? (n : Nat) : Option Text :=
  if n < 39420 then
    ((gb18030Starts.takeWhile (·.1 ≤ n)).getLast?).map fun (start, code) =>
      [Char.ofNat (code + (n - start))]
  else if 189000 ≤ n ∧ n ≤ 189000 + 0xFFFFF then some [Char.ofNat (0x10000 + (n - 189000))]
  else none

/-- The number that four bytes stand for. -/
def number? (a b c d : Nat) : Option Nat :=
  if 0x81 ≤ a ∧ a ≤ 0xFE ∧ 0x81 ≤ c ∧ c ≤ 0xFE ∧ 0x30 ≤ d ∧ d ≤ 0x39 then
    some ((((a - 0x81) * 10 + (b - 0x30)) * 126 + (c - 0x81)) * 10 + (d - 0x30))
  else none

/-- One step where a digit as the second byte announces two more bytes. -/
def gb18030Step : List Nat → Step Unit
  | a :: b :: rest =>
    if 0x80 ≤ a ∧ 0x30 ≤ b ∧ b ≤ 0x39 then
      match rest with
      | c :: d :: _ => .ofText? 4 1 ((number? a b c d).bind ofNumber?)
      | _ => .incomplete
    else asciiOrPair gb18030Pair? (a :: b :: rest)
  | bytes => asciiOrPair gb18030Pair? bytes

/-- The encoding of everything. -/
def gb18030 : MultiByte where
  name := "gb18030"
  aliases := ["gb18030_2000"]
  read := readPlainly gb18030Step

/-- The encodings of simplified Chinese without shifts. -/
def simplified : List MultiByte := [gb2312, gbk, gb18030]

end ModuleDocs.MultiByte
