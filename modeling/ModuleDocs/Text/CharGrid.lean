import ModuleDocs.Text.Basic

/-! # Grids of characters

    Large character sets are laid out in rows of cells, both numbered from
    one.  What a grid says about a row begins at some cell; a point stands for
    a cell that holds no character. -/

namespace ModuleDocs

/-- The characters of a set: the row, the first cell, and the characters from that cell on. -/
abbrev CharGrid := List (Nat × Nat × List String)

namespace CharGrid

/-- The text of a cell, which is its character. -/
def get? (g : CharGrid) (row cell : Nat) : Option Text :=
  g.findSome? fun (r, first, pieces) =>
    if r = row ∧ first ≤ cell then
      match (pieces.flatMap String.toList)[cell - first]? with
      | some '.' => none
      | c => c.map ([·])
    else none

/-- The code points of a grid, the smallest first. -/
def codePoints (g : CharGrid) : List Nat :=
  ((g.flatMap fun (_, _, pieces) => pieces.flatMap String.toList).map Char.toNat).mergeSort

/-- The numbers of an ascending list that another ascending list does not hold. -/
def without : List Nat → List Nat → List Nat
  | [], _ => []
  | n :: ns, taken =>
    let taken := taken.dropWhile (· < n)
    if taken.head? = some n then without ns taken else n :: without ns taken

/-- The code points of a block that a grid does not hold. -/
def rest (g : CharGrid) (first count : Nat) : Array Nat :=
  (without (List.range' first count) g.codePoints).toArray

end CharGrid

end ModuleDocs
