import ModuleDocs.Text.CharGrid.Ksx1001
import ModuleDocs.Text.MultiByte

/-! # Korean encodings

    Only a part of all syllables has cells of its own in the main set.  The
    others are spelled out, are given further pairs in their order, or all are
    put together from their letters. -/

namespace ModuleDocs.MultiByte

open CharGrid

/-- The consonants that a syllable may begin with, in order. -/
def firstConsonants : Text := "ㄱㄲㄴㄷㄸㄹㅁㅂㅃㅅㅆㅇㅈㅉㅊㅋㅌㅍㅎ"

/-- The consonants that a syllable may end with, in order. -/
def lastConsonants : Text := "ㄱㄲㄳㄴㄵㄶㄷㄹㄺㄻㄼㄽㄾㄿㅀㅁㅂㅄㅅㅆㅇㅈㅊㅋㅌㅍㅎ"

/-- The syllable of a first consonant, a vowel and a last consonant; the last one counts from one,
and zero is none. -/
def syllable (first vowel last : Nat) : Char :=
  Char.ofNat (0xAC00 + first * 588 + vowel * 28 + last)

/-- The consonant that a byte stands for in a syllable that is spelled out. -/
def spelledConsonant? (b : Nat) : Option Char :=
  if 0xA1 ≤ b ∧ b ≤ 0xBE then some (Char.ofNat (0x3131 + (b - 0xA1))) else none

/-- The byte that stands for no letter. -/
def noLetter : Nat := 0xD4

/-- The syllable that three bytes spell. -/
def spelled? (first vowel last : Nat) : Option Text := do
  let first ← (← spelledConsonant? first) |> firstConsonants.idxOf?
  let vowel ← if 0xBF ≤ vowel ∧ vowel ≤ 0xD3 then some (vowel - 0xBF) else none
  let last ←
    if last = noLetter then some 0
    else ((← spelledConsonant? last) |> lastConsonants.idxOf?).map (· + 1)
  return [syllable first vowel last]

/-- One step of EUC: eight bytes spell a syllable, a mark before each letter. -/
def eucKrStep : List Nat → Step Unit
  | 0xA4 :: 0xD4 :: rest =>
    match rest with
    | m :: first :: n :: vowel :: o :: last :: _ =>
      .ofText? 8 1 (if m = 0xA4 ∧ n = 0xA4 ∧ o = 0xA4 then spelled? first vowel last else none)
    | _ => .incomplete
  | bytes => asciiOrPair (highPair? ksx1001) bytes

/-- EUC for Korean. -/
def eucKr : MultiByte where
  name := "euc_kr"
  aliases := ["euckr", "korean", "ksc5601", "ks_c_5601", "ks_c_5601_1987", "ksx1001", "ks_x_1001",
    "x_mac_korean"]
  read := readPlainly eucKrStep

/-! ## Further pairs -/

/-- The syllables without a cell in the main set. -/
def furtherSyllables : Array Nat := ksx1001.rest 0xAC00 11172

/-- The place of a byte among those that follow the lead byte of a further pair. -/
def furtherTrail? (b : Nat) : Option Nat :=
  if 0x41 ≤ b ∧ b ≤ 0x5A then some (b - 0x41)
  else if 0x61 ≤ b ∧ b ≤ 0x7A then some (b - 0x61 + 26)
  else if 0x81 ≤ b ∧ b ≤ 0xFE then some (b - 0x81 + 52)
  else none

/-- The syllable of a further pair: 178 to a lead byte, and 84 where the main set takes the rest. -/
def furtherPair? (a b : Nat) : Option Text :=
  (furtherTrail? b).bind fun n =>
    if 0x81 ≤ a ∧ a ≤ 0xA0 then
      (furtherSyllables[(a - 0x81) * 178 + n]?).map fun c => [Char.ofNat c]
    else if 0xA1 ≤ a ∧ n < 84 then
      (furtherSyllables[32 * 178 + (a - 0xA1) * 84 + n]?).map fun c => [Char.ofNat c]
    else none

/-- EUC for Korean with further pairs. -/
def windows949 : MultiByte where
  name := "cp949"
  aliases := ["949", "ms949", "uhc"]
  read := readPlainly <| asciiOrPair fun a b => (highPair? ksx1001 a b).or (furtherPair? a b)

/-! ## Letters put together -/

/-- What five bits say about one of the letters of a syllable. -/
inductive Letter where
  | absent
  | letter (index : Nat)
deriving DecidableEq, Repr

/-- The first consonant of five bits. -/
def firstLetter? (n : Nat) : Option Letter :=
  if n = 1 then some .absent else if 2 ≤ n ∧ n ≤ 20 then some (.letter (n - 2)) else none

/-- The vowel of five bits.  Of every eight numbers the first two are left out. -/
def vowelLetter? (n : Nat) : Option Letter :=
  if n = 2 then some .absent
  else if 3 ≤ n ∧ n ≤ 29 ∧ 2 ≤ n % 8 then some (.letter (n - 3 - 2 * (n / 8)))
  else none

/-- The last consonant of five bits, counted from one. -/
def lastLetter? (n : Nat) : Option Letter :=
  if n = 1 then some .absent
  else if 2 ≤ n ∧ n ≤ 17 then some (.letter (n - 1))
  else if 19 ≤ n ∧ n ≤ 29 then some (.letter (n - 2))
  else none

/-- The text of letters: a syllable, or a letter alone. -/
def joined? : Letter → Letter → Letter → Option Text
  | .absent, .absent, .absent => some ['\u3000']
  | .absent, .absent, .letter last => (lastConsonants[last - 1]?).map ([·])
  | .absent, .letter vowel, .absent => some [Char.ofNat (0x314F + vowel)]
  | .letter first, .absent, .absent => (firstConsonants[first]?).map ([·])
  | .letter first, .letter vowel, .absent => some [syllable first vowel 0]
  | .letter first, .letter vowel, .letter last => some [syllable first vowel last]
  | _, _, _ => none

/-- The syllable or the letter of a pair, which has five bits for each of three letters. -/
def letters? (a b : Nat) : Option Text := do
  let n := a * 0x100 + b
  let first ← firstLetter? (n / 0x400 % 0x20)
  let vowel ← vowelLetter? (n / 0x20 % 0x20)
  let last ← lastLetter? (n % 0x20)
  joined? first vowel last

/-- The character of a pair that is no syllable; a lead byte has two rows of the main set. -/
def otherJohab? (a b : Nat) : Option Text :=
  if a = 0xD8 ∨ a = 0xDF ∨ 0xF9 < a ∨ b < 0x31 ∨ (0x80 ≤ b ∧ b < 0x91) ∨ b % 0x80 = 0x7F
      ∨ (a = 0xDA ∧ 0xA1 ≤ b ∧ b ≤ 0xD3) then none
  else
    let row := if a < 0xE0 then 2 * (a - 0xD9) + 1 else 2 * a - 0x196
    let cell := if b < 0x91 then b - 0x31 else b - 0x43
    if cell < 94 then ksx1001.get? row (cell + 1) else ksx1001.get? (row + 1) (cell - 93)

/-- The encoding that puts syllables together. -/
def johab : MultiByte where
  name := "johab"
  aliases := ["cp1361", "ms1361"]
  read := readPlainly <| asciiOrPair fun a b => if a < 0xD8 then letters? a b else otherJohab? a b

/-- The Korean encodings without shifts. -/
def korean : List MultiByte := [eucKr, windows949, johab]

end ModuleDocs.MultiByte
