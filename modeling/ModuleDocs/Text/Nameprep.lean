import ModuleDocs.Text.Blank
import ModuleDocs.Text.Case
import ModuleDocs.Text.Nameprep.Tables
import ModuleDocs.Text.Normalization

/-! # Preparing names

    Before names are compared, letters are folded, some characters are
    dropped, and the name is normalized.  What is left may not hold blanks,
    controls and the like, and a name with letters that run from right to left
    has to begin and end with them and to hold none that run the other way. -/

namespace ModuleDocs.Nameprep

open Normalization

/-- Why a name is refused. -/
inductive Fault where
  | prohibited (code : Nat)
  | mixedDirections
  | directionAtEnds
deriving DecidableEq, Repr

/-- What letters with a folding of their own are folded to. -/
def foldings : Table := .ofLines foldingLines

/-- A character in the form in which case does not count. -/
def fold (code : Nat) : List Nat :=
  match foldings.get? code with
  | some codes => codes
  | none => if code < 0xD800 ∨ 0xDFFF < code then
      (Text.lowerChar (Char.ofNat code)).map Char.toNat
    else [code]

/-- What a character becomes: it is folded, and once more when that changes its normal form. -/
def mapChar (code : Nat) : List Nat :=
  let folded := fold code
  let normal := normalize folded
  let again := normalize (normal.flatMap fold)
  if normal = again then folded else again

/-- The name without the characters that are dropped, the others folded. -/
def mapName (name : List Nat) : List Nat :=
  (name.filter fun code => !Text.inRanges droppedRanges code).flatMap mapChar

/-- Whether a character belongs to a script that runs from right to left. -/
def isLeftward (code : Nat) : Bool := Text.inRanges leftwardRanges code

/-- Whether a character belongs to a script that runs from left to right. -/
def isRightward (code : Nat) : Bool := Text.inRanges rightwardRanges code

/-- The name, if its directions go together. -/
def checkDirections (name : List Nat) : Except Fault (List Nat) :=
  if name.any isLeftward then
    if name.any isRightward then .error .mixedDirections
    else if name.head?.all isLeftward && name.getLast?.all isLeftward then .ok name
    else .error .directionAtEnds
  else .ok name

/-- The prepared form of a name. -/
def prepare (name : List Nat) : Except Fault (List Nat) :=
  let normal := normalize (mapName name)
  match normal.find? (Text.inRanges prohibitedRanges) with
  | some code => .error (.prohibited code)
  | none => checkDirections normal

end ModuleDocs.Nameprep
