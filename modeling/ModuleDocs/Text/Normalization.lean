import ModuleDocs.Text.Basic
import ModuleDocs.Text.Normalization.Classes
import ModuleDocs.Text.Normalization.Compositions
import ModuleDocs.Text.Normalization.Decompositions

/-! # Normalization

    Texts that look alike become alike: characters are replaced by their
    parts, marks on a letter are put in a fixed order, and then letters and
    marks are put together as far as there are characters for that.

    Code points are plain numbers here, since a decoded name may hold numbers
    that are no characters. -/

namespace ModuleDocs.Normalization

/-! ## Tables -/

/-- The value of a hexadecimal numeral in digits and capital letters. -/
def hexValue (t : Text) : Nat :=
  t.foldl (fun n c => 16 * n + (if c.isDigit then c.toNat - 0x30 else c.toNat - 0x41 + 10)) 0

/-- The code points that an entry of a table lists. -/
def entry (t : Text) : List Nat := if t = "-" then [] else (Text.pieces '.' t).map hexValue

/-- A table of entries for code points: the first code point of each run, and the entries from it
on. -/
abbrev Table := List (Nat × Array (List Nat))

/-- The table that lines of entries give. -/
def Table.ofLines (written : List (Nat × List String)) : Table :=
  written.map fun (first, lines) =>
    (first, (lines.flatMap fun line => (Text.pieces ' ' line.toList).map entry).toArray)

/-- The entry for a code point. -/
def Table.get? (t : Table) (code : Nat) : Option (List Nat) :=
  (List.find? (fun (first, entries) => first ≤ code && code < first + entries.size) t).bind
    fun (first, entries) => entries[code - first]?.filter (· ≠ [])

/-- The parts of characters. -/
def decompositions : Table := .ofLines decompositionLines

/-- The characters that pairs make, ordered by their first parts. -/
def compositions : List (Nat × Nat × Nat) :=
  (Table.ofLines compositionLines).flatMap fun (first, entries) =>
    entries.toList.zipIdx.filterMap fun
      | ([a, b], i) => some (a, b, first + i)
      | _ => none

/-- The class of a mark; other characters have class zero. -/
def combiningClass (code : Nat) : Nat :=
  if code < 0x300 then 0
  else ((classRuns.find? fun (first, last, _) => first ≤ code && code ≤ last).map (·.2.2)).getD 0

/-! ## Korean syllables

    Syllables are numbered by their lead, vowel and tail, each of which is a
    character of its own; a syllable without tail comes before those with one. -/

/-- The first of the leads. -/
def firstLead : Nat := 0x1100

/-- The first of the vowels. -/
def firstVowel : Nat := 0x1161

/-- The number before the first of the tails; it stands for no tail. -/
def firstTail : Nat := 0x11A7

/-- The first of the syllables. -/
def firstSyllable : Nat := 0xAC00

/-- How many vowels there are. -/
def vowelCount : Nat := 21

/-- How many tails there are, with that which stands for none. -/
def tailCount : Nat := 28

/-- The parts of a syllable. -/
def syllableParts (code : Nat) : List Nat :=
  let i := code - firstSyllable
  let tail := i % tailCount
  [firstLead + i / (vowelCount * tailCount), firstVowel + i / tailCount % vowelCount] ++
    if tail = 0 then [] else [firstTail + tail]

/-- The syllable of a lead and a vowel. -/
def syllableOf? (lead vowel : Nat) : Option Nat :=
  if firstLead ≤ lead ∧ lead < firstLead + 19 ∧ firstVowel ≤ vowel ∧
      vowel < firstVowel + vowelCount then
    some (firstSyllable + ((lead - firstLead) * vowelCount + (vowel - firstVowel)) * tailCount)
  else none

/-! ## Taking apart -/

/-- The parts of a character, or the character itself. -/
def parts (code : Nat) : List Nat :=
  if code < 0xA0 then [code]
  else if firstSyllable ≤ code ∧ code ≤ 0xD7A3 then syllableParts code
  else (decompositions.get? code).getD [code]

/-- Puts a character after others, given last first, but before marks of a higher class. -/
def insertMark (code : Nat) : List Nat → List Nat
  | [] => [code]
  | last :: rest =>
    if combiningClass code ≠ 0 ∧ combiningClass code < combiningClass last then
      last :: insertMark code rest
    else code :: last :: rest

/-- Marks next to each other in the order of their classes. -/
def reorder (codes : List Nat) : List Nat :=
  (codes.foldl (fun before code => insertMark code before) []).reverse

/-- The parts of all characters, their marks in order. -/
def decompose (codes : List Nat) : List Nat := reorder (codes.flatMap parts)

/-! ## Putting together -/

/-- The character that two parts make. -/
def pair? (a b : Nat) : Option Nat :=
  (compositions.find? fun (c, d, _) => c = a && d = b).map (·.2.2)

/-- Puts what follows a character together with it, as far as there are characters for that: the
character in the end and what is left.  `passed` is the class of the last mark that was left; a
mark of the same class or a lower one is out of reach behind it. -/
def absorb (code passed : Nat) : List Nat → Nat × List Nat
  | [] => (code, [])
  | next :: rest =>
    let c := combiningClass next
    if passed ≠ 0 ∧ c = 0 then (code, next :: rest)
    else if passed ≠ 0 ∧ c ≤ passed then
      let (made, left) := absorb code passed rest
      (made, next :: left)
    else match pair? code next with
      | some made => absorb made passed rest
      | none =>
        if c = 0 then (code, next :: rest)
        else
          let (made, left) := absorb code c rest
          (made, next :: left)

/-- What is left is no more than there was. -/
theorem length_absorb_le (code passed : Nat) (codes : List Nat) :
    (absorb code passed codes).2.length ≤ codes.length := by
  induction codes generalizing code passed with
  | nil => simp [absorb]
  | cons next rest ih =>
      rw [absorb]
      dsimp only
      split
      · simp
      · split
        · simpa using ih code passed
        · split
          · next made _ => exact Nat.le_succ_of_le (ih made passed)
          · split
            · simp
            · simpa using ih code (combiningClass next)

/-- Characters in place of their parts. -/
def compose : List Nat → List Nat
  | [] => []
  | code :: rest =>
    match rest with
    | [] => [code]
    | vowel :: after =>
      match syllableOf? code vowel with
      | some syllable =>
        match after with
        | [] => [syllable]
        | tail :: after =>
          if firstTail < tail ∧ tail < firstTail + tailCount then
            (syllable + (tail - firstTail)) :: compose after
          else syllable :: compose (tail :: after)
      | none =>
        let taken := absorb code 0 (vowel :: after)
        taken.1 :: compose taken.2
termination_by codes => codes.length
decreasing_by
  · simp only [List.length_cons]
    omega
  · simp
  · have := length_absorb_le code 0 (vowel :: after)
    simp only [List.length_cons] at this ⊢
    omega

/-- The normal form of a text in which compatible characters are alike. -/
def normalize (codes : List Nat) : List Nat := compose (decompose codes)

end ModuleDocs.Normalization
