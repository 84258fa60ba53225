import ModuleDocs.Text.CharacterName.Aliases
import ModuleDocs.Text.CharacterName.Alphabets
import ModuleDocs.Text.CharacterName.EastAsia
import ModuleDocs.Text.CharacterName.Pictures
import ModuleDocs.Text.CharacterName.Scripts
import ModuleDocs.Text.CharacterName.Series
import ModuleDocs.Text.CharacterName.Symbols
import ModuleDocs.Text.CharacterName.Words

/-! # Names of characters

    The code points that names of Unicode 14 stand for.  Most names are listed,
    some are numbered, and those of Korean syllables and Chinese characters
    follow from rules.

    The lists are written briefly.  A digit begins a name and says how many
    words it takes over from the name before; its other words follow.  One sign
    or two stand for a word of the list of words, and a word that is not in that
    list is written out, with a blank after it. -/

namespace ModuleDocs.CharacterName

/-! ## Reading the lists -/

/-- The words that signs stand for. -/
def words : Array Text := (wordLines.flatMap fun line => Text.pieces ' ' line.toList).toArray

/-- The signs that stand for a word alone. -/
def shortSigns : Text := "!$%&()*+,"

/-- The signs that begin a pair. -/
def firstSigns : Text := "abcdefghijklmnopqrstuvwxyz.:;<=>?@[]^_|~#/"

/-- The signs that end a pair. -/
def lastSigns : Text :=
  "ABCDEFGHIJKLMNOPQRSTUVWXYZ0123456789" ++ firstSigns ++ shortSigns

/-- The place of each ASCII character among signs. -/
def places (signs : Text) : Array Nat := (Array.range 128).map fun n => signs.idxOf (Char.ofNat n)

/-- The places of the signs that end a pair. -/
def lastPlaces : Array Nat := places lastSigns

/-- The places of the signs that begin a word; those of pairs come after those that stand alone. -/
def firstPlaces : Array Nat := places (shortSigns ++ firstSigns)

/-- The word of a sign that stands alone, or the number of the first word of its pairs. -/
def leadingSign (c : Char) : Text ⊕ Nat :=
  let place := firstPlaces.getD c.toNat 0
  if place < shortSigns.length then .inl (words.getD place [])
  else .inr (shortSigns.length + (place - shortSigns.length) * lastSigns.length)

/-- What has been read of a word. -/
inductive Part where
  | nothing
  /-- The first sign of a pair; the number is that of the first word of its pairs. -/
  | pair (number : Nat)
  /-- The letters of a word that is written out, the last one first. -/
  | letters (read : Text)

/-- How far a list has been read. -/
structure Reader where
  /-- The code point of the next name. -/
  code : Nat
  /-- The words of the name that is being read, the last one first. -/
  current : List Text := []
  part : Part := .nothing
  /-- The names before it, the last one first. -/
  done : List (Nat × List Text) := []

namespace Reader

/-- The reader after the name that it is reading. -/
def finish (r : Reader) : Reader :=
  match r.current with
  | [] => r
  | words => { r with code := r.code + 1, done := (r.code, words.reverse) :: r.done }

/-- The reader after one more word. -/
def push (r : Reader) (word : Text) : Reader :=
  { r with current := word :: r.current, part := .nothing }

/-- The reader after one more character. -/
def step (r : Reader) (c : Char) : Reader :=
  match r.part with
  | .pair number => r.push (words.getD (number + lastPlaces.getD c.toNat 0) [])
  | .letters read =>
    if c = ' ' then r.push read.reverse else { r with part := .letters (c :: read) }
  | .nothing =>
    if c.isDigit then
      let r := r.finish
      { r with current := r.current.drop (r.current.length - (c.toNat - '0'.toNat)) }
    else if c.isUpper then { r with part := .letters [c] }
    else match leadingSign c with
      | .inl word => r.push word
      | .inr number => { r with part := .pair number }

end Reader

/-- The names that a piece of a list holds, with their code points. -/
def namesFrom (first : Nat) (lines : List String) : List (Nat × List Text) :=
  let start : Reader := { code := first }
  ((lines.flatMap String.toList).foldl Reader.step start).finish.done

/-- The names that are listed, each as its words. -/
def listed : List (Nat × List Text) :=
  (alphabets ++ symbols ++ eastAsia ++ scripts ++ pictures).flatMap fun (first, lines) =>
    namesFrom first lines

/-- The further names, each as its words. -/
def listedAliases : List (Nat × List Text) :=
  aliases.map fun (code, name) => (code, Text.pieces ' ' name)

/-! ## Numbered names -/

/-- A number in digits and capital letters, with zeros before it up to a width. -/
def numeral (base width n : Nat) : Text :=
  let digits := (Nat.toDigits base n).map Char.toUpper
  List.replicate (width - digits.length) '0' ++ digits

/-- The code point in a series whose name has this numeral. -/
def Series.find? (s : Series) (digits : Text) : Option Nat :=
  ((List.range s.count).find? fun i => numeral s.base s.width (s.number + i) = digits).map
    (s.first + ·)

/-- The code point in one of the series. -/
def findInSeries? (name : Text) : Option Nat :=
  seriesList.findSome? fun s => (Text.dropPrefix? s.start name).bind s.find?

/-! ## Names by rules -/

/-- The letters that a syllable begins with. -/
def leads : List Text :=
  ["G", "GG", "N", "D", "DD", "R", "M", "B", "BB", "S", "SS", "", "J", "JJ", "C", "K", "T", "P",
    "H"]

/-- The vowels in a syllable. -/
def vowels : List Text :=
  ["A", "AE", "YA", "YAE", "EO", "E", "YEO", "YE", "O", "WA", "WAE", "OE", "YO", "U", "WEO", "WE",
    "WI", "YU", "EU", "YI", "I"]

/-- The letters that a syllable ends with. -/
def tails : List Text :=
  ["", "G", "GG", "GS", "N", "NJ", "NH", "D", "L", "LG", "LM", "LB", "LS", "LT", "LP", "LH", "M",
    "B", "BS", "S", "SS", "NG", "J", "C", "K", "T", "P", "H"]

/-- The place of the longest of these letters at the start of a name, and the rest of the name. -/
def longest? (letters : List Text) (name : Text) : Option (Nat × Text) :=
  letters.zipIdx.foldl (fun best (l, i) =>
    match Text.dropPrefix? l name with
    | some rest =>
      if best.all fun b => rest.length < b.2.length then some (i, rest) else best
    | none => best) none

/-- The Korean syllable of a name. -/
def syllable? (name : Text) : Option Nat := do
  let (lead, rest) ← longest? leads name
  let (vowel, rest) ← longest? vowels rest
  let (tail, rest) ← longest? tails rest
  if rest = [] then some (0xAC00 + (lead * vowels.length + vowel) * tails.length + tail) else none

/-- Runs of Chinese characters whose names hold their code points. -/
def ideographRanges : List (Nat × Nat) :=
  [(0x3400, 0x4DBF), (0x4E00, 0x9FFF), (0x20000, 0x2A6DF), (0x2A700, 0x2B738), (0x2B740, 0x2B81D),
    (0x2B820, 0x2CEA1), (0x2CEB0, 0x2EBE0), (0x30000, 0x3134A)]

/-- The value of a hexadecimal digit, which is no small letter. -/
def digit? (c : Char) : Option Nat :=
  if c.isDigit then some (c.toNat - 0x30)
  else if 'A' ≤ c ∧ c ≤ 'F' then some (c.toNat - 0x41 + 10)
  else none

/-- The Chinese character of a code point in four or five digits. -/
def ideograph? (digits : Text) : Option Nat :=
  if digits.length = 4 ∨ digits.length = 5 then do
    let values ← digits.mapM digit?
    let code := values.foldl (fun n d => 16 * n + d) 0
    if ideographRanges.any fun (first, last) => first ≤ code && code ≤ last then some code else none
  else none

/-! ## Looking up -/

/-- The code point of a name in one of the lists. -/
def findListed? (name : Text) : Option Nat :=
  let wanted := Text.pieces ' ' name
  ((listed.find? (·.2 = wanted)).or (listedAliases.find? (·.2 = wanted))).map (·.1)

/-- The code point that a name stands for.  Case does not count, but in the names by rules. -/
def find? (name : Text) : Option Nat :=
  match Text.dropPrefix? "HANGUL SYLLABLE " name,
    Text.dropPrefix? "CJK UNIFIED IDEOGRAPH-" name with
  | some rest, _ => syllable? rest
  | none, some rest => ideograph? rest
  | none, none =>
    let name := name.map Char.toUpper
    (findListed? name).or (findInSeries? name)

end ModuleDocs.CharacterName
