import ModuleDocs.Text.Blank
import ModuleDocs.Text.WordTable

/-! # Word characters

    A word character is alphanumeric in Unicode or an underscore.  A word
    begins where the character before is none, and ends where the next one
    is none. -/

namespace ModuleDocs.Text

/-- An alphanumeric character or an underscore. -/
def isWord (c : Char) : Bool :=
  if c.toNat < 0x80 then c.isAlphanum || c = '_' else inRanges wordRanges c.toNat

/-- A letter `A` to `Z` or `a` to `z`, or an underscore: what an identifier begins with. -/
def isIdentStart (c : Char) : Bool := c.isAlpha || c = '_'

/-- A word character or a hyphen: what an identifier continues with. -/
def isIdentPart (c : Char) : Bool := isWord c || c = '-'

/-- Whether no word goes on at the start of this text. -/
def atWordEnd : Text → Bool
  | [] => true
  | c :: _ => !isWord c

/-- An identifier at the start of the text, as long as it can be, and the text after it. -/
def identifier? : Text → Option (Text × Text)
  | [] => none
  | c :: t =>
    if isIdentStart c then some (c :: t.takeWhile isIdentPart, t.dropWhile isIdentPart) else none

/-- The first match of `read` that starts at a position where a word may begin.
`inWord` says whether the character before the text is a word character. -/
def findAtWordStart? {α : Type} (read : Text → Option α) (inWord : Bool) : Text → Option α
  | [] => none
  | c :: t =>
    match if inWord then none else read (c :: t) with
    | some a => some a
    | none => findAtWordStart? read (isWord c) t

end ModuleDocs.Text
