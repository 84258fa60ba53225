import ModuleDocs.Text.MultiByte.Japanese
import ModuleDocs.Text.MultiByte.Korean
import ModuleDocs.Text.MultiByte.Simplified

/-! # Encodings with shifts

    Only the lower half of the bytes is used.  Sequences in between, most of
    them after an escape character, say which set the bytes are of. -/

namespace ModuleDocs.MultiByte

open CharGrid

/-! ## Sets -/

/-- A set that an escape sequence names. -/
inductive ShiftSet where
  | ascii
  | roman
  | katakana
  | latin
  | greek
  /-- The first edition of the main Japanese set, which is read like the later ones. -/
  | jis0208First
  | jis0208
  | jis0212
  | firstPlane (e : Edition)
  | secondPlane
  | gb2312
  | ksx1001
deriving DecidableEq, Repr

namespace ShiftSet

/-- The sets of one byte and the last bytes of the sequences that name them. -/
def narrow : List (Char × ShiftSet) :=
  [('A', latin), ('B', ascii), ('F', greek), ('I', katakana), ('J', roman)]

/-- The sets of two bytes and the last bytes of the sequences that name them. -/
def wide : List (Char × ShiftSet) :=
  [ ('@', jis0208First), ('A', gb2312), ('B', jis0208), ('C', ksx1001), ('D', jis0212),
    ('O', firstPlane .of2000), ('P', secondPlane), ('Q', firstPlane .of2004) ]

/-- How many bytes a character takes. -/
def width : ShiftSet → Nat
  | ascii | roman | katakana | latin | greek => 1
  | _ => 2

/-- The text of the bytes at the start; the sets for single shifts have none. -/
def text? : ShiftSet → List Nat → Option Text
  | ascii, a :: _ => (ascii? a).map ([·])
  | roman, a :: _ => (roman? a).map ([·])
  | katakana, a :: _ => (katakana? (a + 0x80)).map ([·])
  | jis0208First, a :: b :: _ => lowPair? CharGrid.jis0208 a b
  | jis0208, a :: b :: _ => lowPair? CharGrid.jis0208 a b
  | jis0212, a :: b :: _ => lowPair? CharGrid.jis0212 a b
  | firstPlane e, a :: b :: _ => firstPlane? e (a - 0x20) (b - 0x20)
  | secondPlane, a :: b :: _ => lowPair? jis0213Second a b
  | gb2312, a :: b :: _ => lowPair? CharGrid.gb2312 a b
  | ksx1001, a :: b :: _ => lowPair? CharGrid.ksx1001 a b
  | _, _ => none

end ShiftSet

/-! ## Escape sequences -/

/-- Which sequences an encoding knows. -/
structure ShiftRules where
  sets : List ShiftSet
  /-- Whether two control characters switch between the main set and another one. -/
  hasShifts : Bool := false
  /-- Whether a further set serves single characters. -/
  hasSingles : Bool := false
  /-- Whether a sequence may stand before that of the main Japanese set, to tell its revision. -/
  hasRevisions : Bool := true

/-- The sets in use, and what is going on. -/
structure ShiftState where
  main : ShiftSet := .ascii
  other : ShiftSet := .ascii
  single : ShiftSet := .ascii
  /-- Whether the other set serves in place of the main one. -/
  shifted : Bool := false
  /-- Whether an unknown sequence is passed through. -/
  passing : Bool := false

/-- Where a set is put to use. -/
inductive ShiftPlace where
  | main
  | other
  | single
deriving DecidableEq, Repr

/-- The state with a set put to use. -/
def ShiftState.use (s : ShiftState) (set : ShiftSet) : ShiftPlace → ShiftState
  | .main => { s with main := set }
  | .other => { s with other := set }
  | .single => { s with single := set }

/-- Whether a byte ends an escape sequence. -/
def endsEscape (b : Nat) : Bool := 0x40 ≤ b && b ≤ 0x5A

/-- The length of the sequence at the start, of which `count` bytes are known to belong to it: zero
when it does not end early enough, nothing when the bytes end before it. -/
def escapeLength? (hasRevisions : Bool) : Nat → Nat → List Nat → Option Nat
  | 0, _, _ => some 0
  | _, _, [] => none
  | fuel + 1, count, b :: bytes =>
    if endsEscape b then some (count + 1)
    else if hasRevisions ∧ b = 0x26 ∧ bytes.head? = some 0x40 then
      escapeLength? hasRevisions (fuel - 2) (count + 3) (bytes.drop 2)
    else escapeLength? hasRevisions fuel (count + 1) bytes

/-- The set that a complete sequence names, and where it is put to use. -/
def escapeTarget? (r : ShiftRules) (sequence : List Char) : Option (ShiftSet × ShiftPlace) :=
  match sequence with
  | ['\x1b', '$', f] => (ShiftSet.wide.lookup f).map (·, .main)
  | ['\x1b', '(', f] => (ShiftSet.narrow.lookup f).map (·, .main)
  | ['\x1b', ')', f] => (ShiftSet.narrow.lookup f).map (·, .other)
  | ['\x1b', '.', f] =>
    if r.hasSingles then (ShiftSet.narrow.lookup f).map (·, .single) else none
  | ['\x1b', '$', '(', f] => (ShiftSet.wide.lookup f).map (·, .main)
  | ['\x1b', '$', ')', f] => (ShiftSet.wide.lookup f).map (·, .other)
  | ['\x1b', _, _, '\x1b', '$', 'B'] =>
    if r.hasRevisions then some (.jis0208, .main) else none
  | _ => none

/-- The step at an escape sequence. -/
def escapeStep (r : ShiftRules) (s : ShiftState) (bytes : List Nat) : Step ShiftState :=
  match escapeLength? r.hasRevisions 15 1 (bytes.drop 1) with
  | none => .incomplete
  | some 0 => .illegal 1
  | some n =>
    match escapeTarget? r ((bytes.take n).map Char.ofNat) with
    | some (set, place) =>
      if set = .ascii ∨ set ∈ r.sets then .read [] n (s.use set place) else .illegal n
    | none => .illegal n

/-! ## Single characters of a further set -/

/-- The marks that stand in the Greek set where they stand in the Latin one. -/
def greekSameAsLatin : List Nat :=
  [ 0xA0, 0xA3, 0xA6, 0xA7, 0xA8, 0xA9, 0xAB, 0xAC, 0xAD, 0xB0, 0xB1, 0xB2, 0xB3, 0xB7, 0xBB,
    0xBD ]

/-- The Greek character of a byte. -/
def greek? (b : Nat) : Option Char :=
  if b < 0xA0 then some (Char.ofNat b)
  else if b = 0xA1 then some '‘'
  else if b = 0xA2 then some '’'
  else if b = 0xAF then some '―'
  else if b ∈ greekSameAsLatin then some (Char.ofNat b)
  else if 0xB4 ≤ b ∧ b ≤ 0xFE ∧ b ≠ 0xD2 then some (Char.ofNat (0x2D0 + b))
  else none

/-- The character of a further set. -/
def singleText? (set : ShiftSet) (b : Nat) : Option Text :=
  match set with
  | .latin => if b < 0x80 then some [Char.ofNat (b + 0x80)] else none
  | .greek => (greek? (if b < 0x80 then b + 0x80 else b - 0x80)).map ([·])
  | _ => (ascii? b).map ([·])

/-- The step of a character of a further set. -/
def singleStep (s : ShiftState) : List Nat → Step ShiftState
  | _ :: _ :: b :: _ =>
    match singleText? s.single b with
    | some t => .read t 3 s
    | none => .illegal 3
  | _ => .incomplete

/-! ## Steps -/

/-- The step of a character of a set. -/
def setStep (s : ShiftState) (set : ShiftSet) (bytes : List Nat) : Step ShiftState :=
  if (bytes.take set.width).length < set.width then .incomplete
  else match set.text? bytes with
    | some t => .read t set.width s
    | none => .illegal set.width

/-- One step. -/
def shiftStep (r : ShiftRules) (s : ShiftState) : List Nat → Step ShiftState
  | [] => .incomplete
  | b :: rest =>
    if s.passing then .read [Char.ofNat b] 1 { s with passing := !endsEscape b }
    else if b = 0x1B then
      match rest with
      | [] => .incomplete
      | c :: _ =>
        if c ∈ [0x28, 0x29, 0x24, 0x2E, 0x26] then escapeStep r s (b :: rest)
        else if r.hasSingles ∧ c = 0x4E then singleStep s (b :: rest)
        else .read [Char.ofNat b] 1 { s with passing := true }
    else if r.hasShifts ∧ b = 0x0F then .read [] 1 { s with shifted := false }
    else if r.hasShifts ∧ b = 0x0E then .read [] 1 { s with shifted := true }
    else if b = 0x0A then .read ['\n'] 1 { s with shifted := false }
    else if b < 0x20 then .read [Char.ofNat b] 1 s
    else if 0x80 ≤ b then .illegal 1
    else setStep s (if s.shifted then s.other else s.main) (b :: rest)

/-- How an encoding with these rules is read. -/
def readShifting (r : ShiftRules) : List Nat → Except Fault Text := readFrom (shiftStep r) {} 0 0

/-- What is known of the encodings with escape sequences. -/
def escaping : List MultiByte :=
  [ { name := "iso2022_jp"
      aliases := ["csiso2022jp", "iso2022jp", "iso_2022_jp"]
      read := readShifting { sets := [.jis0208First, .jis0208, .roman] } },
    { name := "iso2022_jp_1"
      aliases := ["iso2022jp_1", "iso_2022_jp_1"]
      read := readShifting { sets := [.jis0208First, .jis0208, .jis0212, .roman] } },
    { name := "iso2022_jp_2"
      aliases := ["iso2022jp_2", "iso_2022_jp_2"]
      read := readShifting
        { sets := [.jis0208First, .jis0208, .jis0212, .ksx1001, .gb2312, .roman, .latin, .greek]
          hasSingles := true } },
    { name := "iso2022_jp_2004"
      aliases := ["iso_2022_jp_2004", "iso2022jp_2004"]
      read := readShifting { sets := [.jis0208, .firstPlane .of2004, .secondPlane] } },
    { name := "iso2022_jp_3"
      aliases := ["iso2022jp_3", "iso_2022_jp_3"]
      read := readShifting { sets := [.jis0208, .firstPlane .of2000, .secondPlane] } },
    { name := "iso2022_jp_ext"
      aliases := ["iso2022jp_ext", "iso_2022_jp_ext"]
      read := readShifting { sets := [.jis0208First, .jis0208, .jis0212, .roman, .katakana] } },
    { name := "iso2022_kr"
      aliases := ["csiso2022kr", "iso2022kr", "iso_2022_kr"]
      read := readShifting { sets := [.ksx1001], hasShifts := true, hasRevisions := false } } ]

/-! ## Tildes -/

/-- One step where a tilde and a brace begin and end the section of pairs. -/
def tildeStep (inPairs : Bool) : List Nat → Step Bool
  | [] => .incomplete
  | 0x7E :: rest =>
    match inPairs, rest with
    | _, [] => .incomplete
    | false, 0x7E :: _ => .read ['~'] 2 false
    | false, 0x7B :: _ => .read [] 2 true
    | false, 0x0A :: _ => .read [] 2 false
    | true, 0x7D :: _ => .read [] 2 false
    | _, _ => .illegal 1
  | a :: rest =>
    if 0x80 ≤ a then .illegal 1
    else if !inPairs then .read [Char.ofNat a] 1 false
    else match rest with
      | [] => .incomplete
      | b :: _ =>
        match lowPair? CharGrid.gb2312 a b with
        | some t => .read t 2 true
        | none => .illegal 1

/-- The encoding that begins and ends sections of pairs with a tilde. -/
def tildes : MultiByte where
  name := "hz"
  aliases := ["hzgb", "hz_gb", "hz_gb_2312"]
  read := readFrom tildeStep false 0 0

/-- The encodings with shifts. -/
def shifting : List MultiByte := tildes :: escaping

end ModuleDocs.MultiByte
