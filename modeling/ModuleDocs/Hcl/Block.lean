import ModuleDocs.Log

/-! # Blocks in braces

    A block runs from an opening brace to the brace that closes it.  In plain
    mode every brace counts.  In quote-aware mode a brace inside a string or
    a comment does not: the text is followed by a small machine whose state
    is the region the next character stands in.  In plain mode the machine
    never leaves code, so one walk serves both modes. -/

namespace ModuleDocs.Hcl

/-- Which braces count. -/
inductive BraceMode where
  | plain
  | quoteAware
deriving DecidableEq, Repr

/-- The region in which a character stands. -/
inductive Region where
  | code
  /-- Inside a string. -/
  | quoted
  /-- After a backslash inside a string. -/
  | escaped
  /-- In a comment up to the end of the line. -/
  | lineComment
  /-- At the star that opens a comment. -/
  | commentOpening
  /-- In a comment up to its closing mark. -/
  | blockComment
  /-- At the slash that closes a comment. -/
  | commentClosing
deriving DecidableEq, Repr

/-- The region after a character, given the character that follows it. -/
def Region.next (s : Region) (c : Char) (following : Option Char) : Region :=
  match s with
  | .code =>
    if c = '"' then .quoted
    else if c = '#' then .lineComment
    else if c = '/' ∧ following = some '/' then .lineComment
    else if c = '/' ∧ following = some '*' then .commentOpening
    else .code
  | .quoted => if c = '\\' then .escaped else if c = '"' then .code else .quoted
  | .escaped => .quoted
  | .lineComment => if c = '\n' then .code else .lineComment
  | .commentOpening => .blockComment
  | .blockComment => if c = '*' ∧ following = some '/' then .commentClosing else .blockComment
  | .commentClosing => .code

/-- The region after a character in one of the two modes. -/
def BraceMode.next (m : BraceMode) (s : Region) (c : Char) (rest : Text) : Region :=
  match m with
  | .plain => .code
  | .quoteAware => s.next c rest.head?

/-- The text of a block, and whether its closing brace was found. -/
structure Block where
  text : Text
  closed : Bool
deriving DecidableEq, Repr

namespace Block

/-- The block with one more character in front. -/
def cons (c : Char) (b : Block) : Block := ⟨c :: b.text, b.closed⟩

@[simp] theorem text_cons (c : Char) (b : Block) : (b.cons c).text = c :: b.text := rfl

@[simp] theorem closed_cons (c : Char) (b : Block) : (b.cons c).closed = b.closed := rfl

/-- The rest of a block after its opening brace, while `inner` further braces are open. -/
def close (m : BraceMode) (s : Region) (inner : Nat) : Text → Block
  | [] => ⟨[], false⟩
  | c :: t =>
    let next := m.next s c t
    if s = .code ∧ c = '\x7b' then (close m next (inner + 1) t).cons c
    else if s = .code ∧ c = '\x7d' then
      match inner with
      | 0 => ⟨[c], true⟩
      | inner + 1 => (close m next inner t).cons c
    else (close m next inner t).cons c

/-- The first block of a text that begins in the given region; empty when there is none. -/
def first (m : BraceMode) (s : Region) : Text → Block
  | [] => ⟨[], false⟩
  | c :: t =>
    let next := m.next s c t
    if s = .code ∧ c = '\x7b' then (close m next 0 t).cons c else first m next t

/-- The first block at or after an index. -/
def startingAt (m : BraceMode) (text : Text) (start : Nat) : Block :=
  first m .code (text.drop start)

/-- The first block at or after an index, with a warning when the text ends inside it. -/
def extract (m : BraceMode) (text : Text) (start : Nat) : Logged Text :=
  let b := Block.startingAt m text start
  if b.text ≠ [] ∧ ¬ b.closed then
    .warn b.text ("Unbalanced braces: block starting at offset " ++ Text.ofNat start ++
      " reached end of text (" ++ Text.ofNat b.text.length ++ " chars accumulated)")
  else pure b.text

/-- Whether the text is one closed block and nothing else. -/
def isBalanced (m : BraceMode) (text : Text) : Bool :=
  let b := Block.startingAt m text 0
  b.closed && b.text == text

end Block

end ModuleDocs.Hcl
