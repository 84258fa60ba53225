import ModuleDocs.Text.Blank
import ModuleDocs.Text.CaseTable

/-! # Letter case

    Upper, lower and title case by the full mappings of Unicode: a letter may
    become several, and a capital sigma at the end of a word becomes the
    final form. -/

namespace ModuleDocs.Text

/-- Where a code point goes under the runs, if they move it. -/
def shiftBy (runs : List CaseRun) (n : Nat) : Option Nat :=
  (runs.find? fun r => r.first ≤ n && n ≤ r.last && (n - r.first) % r.step = 0).map
    fun r => ((n : Int) + r.shift).toNat

/-- The image of a character under a table of long mappings, then one of runs. -/
def mapped? (long : List (Nat × List Nat)) (runs : List CaseRun) (c : Char) : Option Text :=
  match long.lookup c.toNat with
  | some image => some (image.map Char.ofNat)
  | none => (shiftBy runs c.toNat).map fun n => [Char.ofNat n]

/-- The upper case of one character. -/
def upperChar (c : Char) : Text :=
  if c.toNat < 0x80 then [c.toUpper] else (mapped? upperLong upperRuns c).getD [c]

/-- The lower case of one character, wherever it stands. -/
def lowerChar (c : Char) : Text :=
  if c.toNat < 0x80 then [c.toLower] else (mapped? lowerLong lowerRuns c).getD [c]

/-- The title case of one character. -/
def titleChar (c : Char) : Text :=
  if c.toNat < 0x80 then [c.toUpper] else (mapped? titleLong titleRuns c).getD (upperChar c)

/-- A letter with case, unless it is ignored between letters. -/
def isCased (c : Char) : Bool :=
  if c.toNat < 0x80 then c.isAlpha else inRanges casedRanges c.toNat

/-- A character that is ignored between the letters of a word. -/
def isCaseIgnored (c : Char) : Bool :=
  if c.toNat < 0x80 then c ∈ ['\'', '.', ':', '^', '\x60'] else inRanges caseIgnoredRanges c.toNat

/-- Whether a letter with case comes first, ignored characters apart. -/
def beginsCased (t : Text) : Bool :=
  match t.dropWhile isCaseIgnored with
  | [] => false
  | c :: _ => isCased c

/-- Lower case of a text, where `before` is what precedes it, last character first. -/
def lowerAfter (before : Text) : Text → Text
  | [] => []
  | c :: t =>
    let image :=
      if c = 'Σ' then (if beginsCased before && !beginsCased t then ['ς'] else ['σ'])
      else lowerChar c
    image ++ lowerAfter (c :: before) t

/-- The text in lower case. -/
def lower (t : Text) : Text := lowerAfter [] t

/-- The text in upper case. -/
def upper (t : Text) : Text := t.flatMap upperChar

/-- The first character in title case, the others in lower case. -/
def capitalize : Text → Text
  | [] => []
  | c :: t => titleChar c ++ lowerAfter [c] t

end ModuleDocs.Text
