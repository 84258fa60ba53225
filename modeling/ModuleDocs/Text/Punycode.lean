import ModuleDocs.Text.ByteFault

/-! # Punycode

    The characters of ASCII come first, in order.  After the last hyphen
    follow numbers, each of which says which code point to put in next and
    where.  The digits of a number are letters and digits; how large a digit
    may be to end the number depends on a bias that adapts itself. -/

namespace ModuleDocs.Text

/-- Why bytes are not Punycode. -/
inductive PunycodeFault where
  | notAscii (byte : ByteFault)
  /-- The bytes end within a number. -/
  | incomplete
  | noDigit (c : Char)
  | tooLarge (code : Nat)
deriving DecidableEq, Repr

namespace Punycode

/-- The characters of bytes. -/
def ascii (i : Nat) : List Nat → Except PunycodeFault Text
  | [] => .ok []
  | b :: bytes =>
    if b < 0x80 then (Char.ofNat b :: ·) <$> ascii (i + 1) bytes
    else .error (.notAscii ⟨i, 1, b⟩)

/-- The value of a digit, given in upper case. -/
def digit? (c : Char) : Option Nat :=
  if c.isUpper then some (c.toNat - 0x41)
  else if c.isDigit then some (c.toNat - 0x30 + 26)
  else none

/-- The bound below which the digit at a place ends its number. -/
def threshold (place bias : Nat) : Nat := max 1 (min 26 (36 * (place + 1) - bias))

/-- Reads a number: its value and the text after it. -/
def number (bias place weight value : Nat) : Text → Except PunycodeFault (Nat × Text)
  | [] => .error .incomplete
  | c :: t =>
    match digit? c with
    | none => .error (.noDigit c)
    | some d =>
      let bound := threshold place bias
      let value := value + d * weight
      if d < bound then .ok (value, t)
      else number bias (place + 1) (weight * (36 - bound)) value t

/-- Divides by 35 until at most 455 is left, and counts the divisions by 36. -/
def settle : Nat → Nat → Nat × Nat
  | 0, n => (n, 0)
  | fuel + 1, n =>
    if 455 < n then
      let (n, steps) := settle fuel (n / 35)
      (n, steps + 36)
    else (n, 0)

/-- The bias after a number: `first` for the first one, `count` characters are there. -/
def adapt (value : Nat) (first : Bool) (count : Nat) : Nat :=
  let n := if first then value / 700 else value / 2
  let n := n + n / count
  let (n, steps) := settle n n
  steps + 36 * n / (n + 38)

/-- How far the reading of numbers is. -/
structure State where
  codes : List Nat
  /-- The code point to be put in next at the earliest. -/
  code : Nat := 0x80
  /-- The place from which on it is put in. -/
  place : Nat := 0
  bias : Nat := 72
  first : Bool := true

/-- The state after a number: its character is put in. -/
def State.insert (s : State) (value : Nat) : Except PunycodeFault State :=
  let place := s.place + value
  let count := s.codes.length + 1
  let code := s.code + place / count
  let place := place % count
  if 0x10FFFF < code then .error (.tooLarge code)
  else .ok
    { codes := s.codes.take place ++ code :: s.codes.drop place
      code
      place := place + 1
      bias := adapt value s.first count
      first := false }

/-- Reads numbers, as many as the fuel allows. -/
def numbers : Nat → State → Text → Except PunycodeFault (List Nat)
  | 0, s, _ => .ok s.codes
  | _, s, [] => .ok s.codes
  | fuel + 1, s, t => do
    let (value, t) ← number s.bias 0 1 0 t
    numbers fuel (← s.insert value) t

/-- The code points of bytes. -/
def decode (bytes : List Nat) : Except PunycodeFault (List Nat) := do
  let after := (bytes.reverse.takeWhile (· ≠ 0x2D)).reverse
  let basic ← ascii 0 (bytes.take (bytes.length - after.length - 1))
  let extended ← ascii 0 after
  numbers (extended.length + 1) { codes := basic.map Char.toNat } (extended.map Char.toUpper)

/-! ## Writing -/

/-- The digit of a value. -/
def digitOf (d : Nat) : Char :=
  if d < 26 then Char.ofNat (0x61 + d) else Char.ofNat (0x30 + (d - 26))

theorem threshold_bounds (place bias : Nat) :
    1 ≤ threshold place bias ∧ threshold place bias ≤ 26 := by
  rw [threshold]
  omega

/-- The digits of a number. -/
def digits (bias place value : Nat) : Text :=
  let bound := threshold place bias
  if value < bound then [digitOf value]
  else
    digitOf (bound + (value - bound) % (36 - bound)) ::
      digits bias (place + 1) ((value - bound) / (36 - bound))
termination_by value
decreasing_by
  have h := threshold_bounds place bias
  have hle := Nat.div_le_self (value - threshold place bias) (36 - threshold place bias)
  omega

/-- How far the writing of numbers is. -/
structure Writer where
  /-- What has been written, the last piece first. -/
  written : List Text := []
  /-- The number that comes next. -/
  value : Nat := 0
  bias : Nat := 72
  first : Bool := true
  /-- How many characters are there already. -/
  count : Nat

/-- The writer after it has passed a character, when `code` is the one that is put in next. -/
def Writer.pass (code : Nat) (w : Writer) (c : Nat) : Writer :=
  if c < code then { w with value := w.value + 1 }
  else if c = code then
    { written := digits w.bias 0 w.value :: w.written
      value := 0
      bias := adapt w.value w.first (w.count + 1)
      first := false
      count := w.count + 1 }
  else w

/-- Writes the numbers for code points in increasing order; all below `done` have been written. -/
def writeFrom (all : List Nat) (done : Nat) (w : Writer) : List Nat → Writer
  | [] => w
  | code :: rest =>
    let w := { w with value := w.value + (code - done) * (w.count + 1) }
    let w := all.foldl (Writer.pass code) w
    writeFrom all (code + 1) { w with value := w.value + 1 } rest

/-- The text that stands for code points. -/
def encode (codes : List Nat) : Text :=
  let basic := codes.filter (· < 0x80)
  let others := ((codes.filter (0x80 ≤ ·)).mergeSort).eraseDups
  let w := writeFrom codes 0x80 { count := basic.length } others
  (if basic = [] then [] else basic.map Char.ofNat ++ ['-']) ++ w.written.reverse.flatten

end Punycode

/-- The text of bytes. -/
def ofPunycode (bytes : List Nat) : Except PunycodeFault Text :=
  (Punycode.decode bytes).map fun codes => codes.map Char.ofNat

end ModuleDocs.Text
