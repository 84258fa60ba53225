import ModuleDocs.Text.Wide

/-! # UTF-7

    The first 128 code points stand for themselves, but a plus sign opens a
    section in which letters, digits, `+` and `/` carry six bits each; sixteen
    bits make a unit of UTF-16.  Any other byte closes the section, and a
    minus sign that does so is left out.  Bits that are left over have to be
    zero and fewer than six. -/

namespace ModuleDocs.Text

/-- What is wrong with bytes that are not UTF-7. -/
inductive Utf7Cause where
  | special
  | illFormed
  | partialCharacter
  | padding
  | unterminated
deriving DecidableEq, Repr

/-- A section of bits: the index of its plus sign and that sign's value, the bits that are left over
and how many they are, and the high half of a pair that waits for its low half. -/
structure Utf7Section where
  start : Nat
  bits : Nat := 0
  count : Nat := 0
  high : Option Nat := none
deriving DecidableEq, Repr

/-- The six bits that a byte carries. -/
def sixBits? (b : Nat) : Option Nat :=
  if 0x41 ≤ b ∧ b ≤ 0x5A then some (b - 0x41)
  else if 0x61 ≤ b ∧ b ≤ 0x7A then some (b - 0x61 + 26)
  else if 0x30 ≤ b ∧ b ≤ 0x39 then some (b - 0x30 + 52)
  else if b = 0x2B then some 62
  else if b = 0x2F then some 63
  else none

/-- The character of a unit; half of a broken pair has none and is replaced. -/
def ofUnit (n : Nat) : Char := if isHighHalf n || isLowHalf n then '\uFFFD' else Char.ofNat n

namespace Utf7Section

/-- Takes a unit into the section: the text that it completes, and the section after it. -/
def takeUnit (s : Utf7Section) (n : Nat) : Text × Utf7Section :=
  match s.high with
  | some high =>
    if isLowHalf n then ([ofHalves high n], { s with high := none })
    else if isHighHalf n then ([ofUnit high], { s with high := some n })
    else ([ofUnit high, ofUnit n], { s with high := none })
  | none =>
    if isHighHalf n then ([], { s with high := some n }) else ([ofUnit n], s)

/-- Takes six bits into the section. -/
def takeBits (s : Utf7Section) (six : Nat) : Text × Utf7Section :=
  let bits := s.bits * 0x40 + six
  let count := s.count + 6
  if 16 ≤ count then
    let left := 1 <<< (count - 16)
    { s with bits := bits % left, count := count - 16 }.takeUnit (bits / left)
  else ([], { s with bits, count })

/-- What is wrong with the bits that are left over. -/
def leftOver? (s : Utf7Section) : Option Utf7Cause :=
  if 6 ≤ s.count then some .partialCharacter
  else if 0 < s.count ∧ s.bits ≠ 0 then some .padding
  else none

/-- The text of the high half that waits, if a byte closes the section that stands for itself. -/
def waiting (s : Utf7Section) (b : Nat) : Text :=
  match s.high with
  | some high => if b < 0x80 ∧ b ≠ 0x2B then [ofUnit high] else []
  | none => []

/-- Whether the text may not end in the section. -/
def isUnfinished (s : Utf7Section) : Bool := s.high.isSome || s.leftOver?.isSome

end Utf7Section

/-- The text before what follows, if that can be read. -/
def followedBy {ε : Type} (t : Text) (rest : Except ε Text) : Except ε Text := rest.map (t ++ ·)

/-- A fault of `count` bytes. -/
def utf7Fault (cause : Utf7Cause) (start count lead : Nat) :
    Except (Utf7Cause × ByteFault) Text :=
  .error (cause, ⟨start, count, lead⟩)

/-- Reads bytes from the index `i` on; `opened` says that the byte before was the plus sign that
opened the section. -/
def ofUtf7From (inside : Option Utf7Section) (opened : Bool) (i : Nat) :
    List UInt8 → Except (Utf7Cause × ByteFault) Text
  | [] =>
    match inside with
    | none => .ok []
    | some s =>
      if s.isUnfinished then utf7Fault .unterminated s.start (i - s.start) 0x2B else .ok []
  | b :: bytes =>
    let b := b.toNat
    match inside with
    | none =>
      if b = 0x2B then ofUtf7From (some ⟨i, 0, 0, none⟩) true (i + 1) bytes
      else if b < 0x80 then followedBy [Char.ofNat b] (ofUtf7From none false (i + 1) bytes)
      else utf7Fault .special i 1 b
    | some s =>
      match sixBits? b with
      | some six =>
        let (t, s) := s.takeBits six
        followedBy t (ofUtf7From (some s) false (i + 1) bytes)
      | none =>
        if opened then
          if b = 0x2D then followedBy ['+'] (ofUtf7From none false (i + 1) bytes)
          else utf7Fault .illFormed s.start 2 0x2B
        else match s.leftOver? with
          | some cause => utf7Fault cause s.start (i + 1 - s.start) 0x2B
          | none =>
            if b = 0x2D then followedBy (s.waiting b) (ofUtf7From none false (i + 1) bytes)
            else if b < 0x80 then
              followedBy (s.waiting b ++ [Char.ofNat b]) (ofUtf7From none false (i + 1) bytes)
            else utf7Fault .special i 1 b

/-- The text of UTF-7 bytes. -/
def ofUtf7 (bytes : List UInt8) : Except (Utf7Cause × ByteFault) Text :=
  ofUtf7From none false 0 bytes

end ModuleDocs.Text
