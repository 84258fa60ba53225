import ModuleDocs.Text.CharGrid.Jis0208
import ModuleDocs.Text.CharGrid.Jis0212
import ModuleDocs.Text.CharGrid.Jis0213
import ModuleDocs.Text.MultiByte

/-! # Japanese encodings

    Shift JIS packs the rows of a set in twos behind lead bytes that leave room
    for narrow katakana; EUC sets the high bit of row and cell. -/

namespace ModuleDocs.MultiByte

open CharGrid

/-- The narrow katakana of a byte. -/
def katakana? (b : Nat) : Option Char :=
  if 0xA1 ≤ b ∧ b ≤ 0xDF then some (Char.ofNat (0xFEC0 + b)) else none

/-- The character of a byte in the Japanese variant of ASCII. -/
def roman? (b : Nat) : Option Char :=
  if b = 0x5C then some '¥' else if b = 0x7E then some '‾' else ascii? b

/-! ## The extended set -/

/-- The editions of the extended set. -/
inductive Edition where
  | of2000
  | of2004
deriving DecidableEq, Repr

/-- The cells of the first plane that the second edition filled. -/
def cellsOf2004 : List (Nat × Nat) :=
  [ (14, 1), (15, 94), (47, 52), (47, 94), (84, 7), (94, 90), (94, 91), (94, 92), (94, 93),
    (94, 94) ]

/-- Whether an edition leaves a cell of the first plane empty that another fills. -/
def Edition.leavesOut (e : Edition) (row cell : Nat) : Bool :=
  e = .of2000 && cellsOf2004.contains (row, cell)

/-- The text of a cell of the first plane. -/
def firstPlane? (e : Edition) (row cell : Nat) : Option Text :=
  if e.leavesOut row cell then none
  else (jis0208.get? row cell).or
    ((jis0213First.get? row cell).or (jis0213Pairs.lookup (row, cell)))

/-- The text of a cell of the second plane. -/
def secondPlane? (e : Edition) (row cell : Nat) : Option Text :=
  if e = .of2000 ∧ row = 93 ∧ cell = 27 then some "鬝" else jis0213Second.get? row cell

/-! ## Shift JIS -/

/-- Whether a byte leads a pair. -/
def isShiftLead (a : Nat) : Bool := (0x81 ≤ a && a ≤ 0x9F) || (0xE0 ≤ a && a ≤ 0xFC)

/-- The row and the cell of a pair: a lead byte has two rows of 94 cells. -/
def shiftCell? (a b : Nat) : Option (Nat × Nat) :=
  if 0x40 ≤ b ∧ b ≠ 0x7F ∧ b ≤ 0xFC then
    let row := 2 * (if a < 0xE0 then a - 0x81 else a - 0xC1)
    let cell := if b < 0x7F then b - 0x40 else b - 0x41
    some (if cell < 94 then (row + 1, cell + 1) else (row + 2, cell - 93))
  else none

/-- Shift JIS. -/
def shiftJis : MultiByte where
  name := "shift_jis"
  aliases := ["csshiftjis", "shiftjis", "sjis", "s_jis", "x_mac_japanese"]
  read := readPlainly <| singleOrPair (fun a => (ascii? a).or (katakana? a))
    (fun a => isShiftLead a && a ≤ 0xEA) fun a b =>
      .ofText? 2 1 ((shiftCell? a b).bind fun (row, cell) => jis0208.get? row cell)

/-- The single bytes of Shift JIS on Windows. -/
def windowsSingle? (a : Nat) : Option Char :=
  if a ≤ 0x80 then some (Char.ofNat a)
  else if a = 0xA0 then some '\uf8f0'
  else if 0xFD ≤ a then some (Char.ofNat (0xF8F1 + (a - 0xFD)))
  else katakana? a

/-- The pairs of Shift JIS on Windows; some lead bytes are for private use. -/
def windowsPair? (a b : Nat) : Option Text :=
  (shiftCell? a b).bind fun (row, cell) =>
    (windowsJapanese.get? row cell).or <|
      if 0xF0 ≤ a ∧ a ≤ 0xF9 then
        some [Char.ofNat (0xE000 + 188 * (a - 0xF0) + (if b < 0x7F then b - 0x40 else b - 0x41))]
      else jis0208.get? row cell

/-- Shift JIS on Windows. -/
def windows932 : MultiByte where
  name := "cp932"
  aliases := ["932", "ms932", "mskanji", "ms_kanji"]
  read := readPlainly <| singleOrPair windowsSingle? isShiftLead fun a b =>
    .ofText? 2 1 (windowsPair? a b)

/-- The row of the second plane that a row beyond the first plane stands for. -/
def secondPlaneRow (row : Nat) : Nat :=
  if 104 ≤ row then row - 26 else if 100 ≤ row ∨ row = 96 then row - 88 else row - 94

/-- The pairs of Shift JIS with the extended set. -/
def shiftPair (e : Edition) (a b : Nat) : Step Unit :=
  match shiftCell? a b with
  | none => .illegal 1
  | some (row, cell) =>
    if row ≤ 94 then
      if e.leavesOut row cell then .illegal 2
      else if row = 1 ∧ cell = 32 then .read ['\\'] 2 ()
      else .ofText? 2 1 (firstPlane? e row cell)
    else .ofText? 2 1 (secondPlane? e (secondPlaneRow row) cell)

/-- How Shift JIS with the extended set is read. -/
def readShift (e : Edition) : List Nat → Except Fault Text :=
  readPlainly (singleOrPair (fun a => (roman? a).or (katakana? a)) isShiftLead (shiftPair e))

/-- Shift JIS with the first edition of the extended set. -/
def shiftJis2000 : MultiByte where
  name := "shift_jisx0213"
  aliases := ["shiftjisx0213", "sjisx0213", "s_jisx0213"]
  read := readShift .of2000

/-- Shift JIS with the second edition of the extended set. -/
def shiftJis2004 : MultiByte where
  name := "shift_jis_2004"
  aliases := ["shiftjis2004", "sjis_2004", "s_jis_2004"]
  read := readShift .of2004

/-! ## EUC -/

/-- One step of EUC: `main` reads pairs, `second` those that a third byte announces. -/
def eucStep (main : Nat → Nat → Step Unit) (second : Nat → Nat → Option Text) :
    List Nat → Step Unit
  | 0x8E :: b :: _ => .ofText? 2 1 ((katakana? b).map ([·]))
  | 0x8F :: b :: c :: _ => .ofText? 3 1 (second (b - 0xA0) (c - 0xA0))
  | [0x8F, _] => .incomplete
  | bytes => singleOrPair ascii? (fun _ => true) (fun a b => main (a - 0xA0) (b - 0xA0)) bytes

/-- EUC for Japanese. -/
def eucJp : MultiByte where
  name := "euc_jp"
  aliases := ["eucjp", "ujis", "u_jis"]
  read := readPlainly <| eucStep (fun row cell => .ofText? 2 1 (jis0208.get? row cell)) jis0212.get?

/-- The pairs of EUC with the extended set. -/
def eucPair (e : Edition) (row cell : Nat) : Step Unit :=
  if e.leavesOut row cell then .illegal 2
  else if row = 2 ∧ cell = 18 then .read ['～'] 2 ()
  else .ofText? 2 1 (firstPlane? e row cell)

/-- How EUC with the extended set is read. -/
def readEuc (e : Edition) : List Nat → Except Fault Text :=
  readPlainly <| eucStep (eucPair e) fun row cell =>
    (secondPlane? e row cell).or (jis0212.get? row cell)

/-- EUC with the first edition of the extended set. -/
def eucJp2000 : MultiByte where
  name := "euc_jisx0213"
  aliases := ["eucjisx0213"]
  read := readEuc .of2000

/-- EUC with the second edition of the extended set. -/
def eucJp2004 : MultiByte where
  name := "euc_jis_2004"
  aliases := ["jisx0213", "eucjis2004", "euc_jis2004"]
  read := readEuc .of2004

/-- The Japanese encodings without shifts. -/
def japanese : List MultiByte :=
  [shiftJis, windows932, shiftJis2000, shiftJis2004, eucJp, eucJp2000, eucJp2004]

end ModuleDocs.MultiByte
