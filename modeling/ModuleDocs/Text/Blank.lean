import ModuleDocs.Text.Basic

/-! # Blank characters

    Two classes of blank are in use.  `isSpace` is Unicode white space with
    the four information separators U+001C to U+001F; it decides what is
    trimmed from the ends of a text.  `isBlank` is a space or a tab; it is
    what may stand between the words of one line. -/

namespace ModuleDocs.Text

/-- Runs of white space, the information separators included. -/
def spaceRanges : List (Nat × Nat) :=
  [(0x09, 0x0D), (0x1C, 0x20), (0x85, 0x85), (0xA0, 0xA0), (0x1680, 0x1680),
   (0x2000, 0x200A), (0x2028, 0x2029), (0x202F, 0x202F), (0x205F, 0x205F), (0x3000, 0x3000)]

/-- Whether a code point lies in one of the runs. -/
def inRanges (ranges : List (Nat × Nat)) (n : Nat) : Bool :=
  ranges.any fun (first, last) => first ≤ n && n ≤ last

/-- White space anywhere in Unicode, or an information separator. -/
def isSpace (c : Char) : Bool := inRanges spaceRanges c.toNat

/-- A space or a tab. -/
def isBlank (c : Char) : Bool := c = ' ' || c = '\t'

theorem isSpace_of_isBlank {c : Char} (h : isBlank c = true) : isSpace c = true := by
  simp only [isBlank, Bool.or_eq_true, decide_eq_true_eq] at h
  rcases h with rfl | rfl <;> decide

/-- The text after its leading white space. -/
def trimStart (t : Text) : Text := t.dropWhile isSpace

/-- The text before its trailing white space. -/
def trimEnd (t : Text) : Text := (t.reverse.dropWhile isSpace).reverse

/-- The text without the white space at its two ends. -/
def trim (t : Text) : Text := trimEnd (trimStart t)

/-- The text after its leading spaces and tabs. -/
def skipBlanks (t : Text) : Text := t.dropWhile isBlank

end ModuleDocs.Text
