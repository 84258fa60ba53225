import ModuleDocs.Text.Basic

/-! # Patterns for names

    In a pattern a star stands for any text, a question mark for any
    character, and brackets for one character out of a set, or outside of it
    after an exclamation mark.  A set lists characters and ranges; a range
    whose ends are in the wrong order is empty.  A bracket that is not closed
    stands for itself.

    Main statement: the table that is filled to match a pattern gives what
    the pieces of the pattern stand for (`matchesGlob_eq`). -/

namespace ModuleDocs.Text

/-- One piece of a pattern. -/
inductive GlobPiece where
  | star
  | any
  | literal (c : Char)
  | oneOf (ranges : List (Char × Char))
  | noneOf (ranges : List (Char × Char))
deriving DecidableEq, Repr

namespace GlobPiece

/-- Whether a range of the list holds a character. -/
def inSome (ranges : List (Char × Char)) (c : Char) : Bool :=
  ranges.any fun r => r.1 ≤ c && c ≤ r.2

/-- Whether the piece stands for a character; a star is no single character. -/
def accepts (c : Char) : GlobPiece → Bool
  | star => false
  | any => true
  | literal d => c = d
  | oneOf ranges => inSome ranges c
  | noneOf ranges => !inSome ranges c

/-- Puts a character before the first piece of text. -/
def extendFirst (c : Char) : List Text → List Text
  | [] => [[c]]
  | t :: ts => (c :: t) :: ts

/-- The pieces of a set between the hyphens that make ranges.  The next `held` characters make
none: those at the start, and the two after a hyphen. -/
def rangeEnds (held : Nat) : Text → List Text
  | [] => [[]]
  | c :: t =>
    match held with
    | held + 1 => extendFirst c (rangeEnds held t)
    | 0 => if c = '-' then [] :: rangeEnds 2 t else extendFirst c (rangeEnds 0 t)

/-- A hyphen at the end of a set stands for itself. -/
def closeLast : List Text → List Text
  | [t, []] => [t ++ ['-']]
  | t :: ts => t :: closeLast ts
  | [] => []

/-- Takes out the ranges that are empty. -/
def dropEmptyRanges : List Text → List Text
  | [] => []
  | t :: ts =>
    match dropEmptyRanges ts with
    | [] => [t]
    | u :: us =>
      match t.getLast?, u.head? with
      | some a, some b => if b < a then (t.dropLast ++ u.tail) :: us else t :: u :: us
      | _, _ => t :: u :: us

/-- The ranges of a set: each character by itself, and one range across each hyphen. -/
def rangesOf : List Text → List (Char × Char)
  | [] => []
  | [t] => t.map fun c => (c, c)
  | t :: u :: us =>
    let across := match t.getLast?, u.head? with
      | some a, some b => [(a, b)]
      | _, _ => [('-', '-')]
    t.map (fun c => (c, c)) ++ across ++ rangesOf (u :: us)

/-- The piece for a set. -/
def ofSet (set : Text) : GlobPiece :=
  let held := if set.head? = some '!' then 2 else 1
  match dropEmptyRanges (closeLast (rangeEnds held set)) with
  | ('!' :: t) :: ts => if t = [] ∧ ts = [] then any else noneOf (rangesOf (t :: ts))
  | ts => oneOf (rangesOf ts)

/-- The set after an opening bracket and the text after the closing one, which is not the first
character of the set. -/
def readSet? (t : Text) : Option (Text × Text) :=
  let start := match t with
    | '!' :: ']' :: _ => 2
    | '!' :: _ => 1
    | ']' :: _ => 1
    | _ => 0
  let body := t.drop start
  match body.dropWhile (· ≠ ']') with
  | [] => none
  | _ :: rest => some (t.take start ++ body.takeWhile (· ≠ ']'), rest)

/-- The pieces of a pattern.  The next `skip` characters belong to the set read last. -/
def piecesFrom (skip : Nat) : Text → List GlobPiece
  | [] => []
  | c :: t =>
    match skip with
    | skip + 1 => piecesFrom skip t
    | 0 =>
      if c = '*' then star :: piecesFrom 0 t
      else if c = '?' then any :: piecesFrom 0 t
      else if c = '[' then
        match readSet? t with
        | some (set, rest) => ofSet set :: piecesFrom (t.length - rest.length) t
        | none => literal '[' :: piecesFrom 0 t
      else literal c :: piecesFrom 0 t

/-- Whether the pieces stand for a text, all of it. -/
def accept : List GlobPiece → Text → Bool
  | [], t => t.isEmpty
  | star :: ps, [] => accept ps []
  | star :: ps, c :: t => accept ps (c :: t) || accept (star :: ps) t
  | _ :: _, [] => false
  | p :: ps, c :: t => p.accepts c && accept ps t

/-! ## Trying all rests at once

    A star may stand for a text of any length, so each rest of the pattern is
    tried at each place of the text.  A row holds the outcome of every rest
    of the pattern for one rest of the text, and is found from the row for
    the text that is one character shorter. -/

/-- The row for the empty text. -/
def lastRow : List GlobPiece → List Bool
  | [] => [true]
  | p :: ps =>
    let row := lastRow ps
    (p = star && row.headD false) :: row

/-- The row for a text, given its first character and the row for what follows it. -/
def rowBefore (c : Char) : List GlobPiece → List Bool → List Bool
  | [], _ => [false]
  | p :: ps, after =>
    let row := rowBefore c ps after.tail
    (if p = star then row.headD false || after.headD false
      else p.accepts c && after.tail.headD false) :: row

/-- The row for a text. -/
def row (ps : List GlobPiece) (t : Text) : List Bool := t.foldr (rowBefore · ps) (lastRow ps)

/-- The outcomes for every rest of a pattern, one after the other. -/
def outcomes (t : Text) : List GlobPiece → List Bool
  | [] => [accept [] t]
  | p :: ps => accept (p :: ps) t :: outcomes t ps

theorem headD_outcomes (t : Text) (ps : List GlobPiece) :
    (outcomes t ps).headD false = accept ps t := by
  cases ps <;> rfl

theorem lastRow_eq (ps : List GlobPiece) : lastRow ps = outcomes [] ps := by
  induction ps with
  | nil => simp [lastRow, outcomes, accept]
  | cons p ps ih =>
      rw [lastRow, outcomes, ih, headD_outcomes]
      cases p <;> simp [accept]

theorem rowBefore_eq (c : Char) (t : Text) (ps : List GlobPiece) :
    rowBefore c ps (outcomes t ps) = outcomes (c :: t) ps := by
  induction ps with
  | nil => simp [rowBefore, outcomes, accept]
  | cons p ps ih =>
      rw [rowBefore, outcomes, outcomes]
      simp only [List.tail_cons, List.headD_cons, ih, headD_outcomes]
      cases p <;> simp [accept]

/-- A row holds what trying each rest of the pattern by itself gives. -/
theorem row_eq (ps : List GlobPiece) (t : Text) : row ps t = outcomes t ps := by
  induction t with
  | nil => exact lastRow_eq ps
  | cons c t ih =>
      have h : row ps (c :: t) = rowBefore c ps (row ps t) := rfl
      rw [h, ih, rowBefore_eq]

theorem headD_row (ps : List GlobPiece) (t : Text) :
    (row ps t).headD false = accept ps t := by
  rw [row_eq, headD_outcomes]

end GlobPiece

/-- Whether a pattern stands for a name. -/
def matchesGlob (pattern name : Text) : Bool :=
  (GlobPiece.row (GlobPiece.piecesFrom 0 pattern) name).headD false

/-- A pattern stands for what its pieces stand for. -/
theorem matchesGlob_eq (pattern name : Text) :
    matchesGlob pattern name = GlobPiece.accept (GlobPiece.piecesFrom 0 pattern) name :=
  GlobPiece.headD_row _ _

end ModuleDocs.Text
