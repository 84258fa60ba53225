import ModuleDocs.Text.Basic

/-! # Marked sections

    A pair of markers fences a section of a document.  The first occurrence
    of each marker counts, and a pair counts only when the closing marker
    does not stand before the opening one. -/

namespace ModuleDocs

/-- The two marks around a section. -/
structure Markers where
  opening : Text
  closing : Text
deriving DecidableEq, Repr

namespace Markers

/-- The section that holds generated reference documentation. -/
def tfDocs : Markers := ⟨"<!-- BEGIN_TF_DOCS -->", "<!-- END_TF_DOCS -->"⟩

/-- The section that holds the table of modules. -/
def modules : Markers := ⟨"<!-- BEGIN_MODULES -->", "<!-- END_MODULES -->"⟩

/-- The indexes of the two marks, when both are there in order. -/
def positions? (m : Markers) (content : Text) : Option (Nat × Nat) :=
  match Text.index? m.opening content, Text.index? m.closing content with
  | some i, some j => if i ≤ j then some (i, j) else none
  | _, _ => none

/-- The section with its marks; the two marks on lines of their own when there is no section. -/
def extract (m : Markers) (content : Text) : Text :=
  match m.positions? content with
  | some (i, j) => (content.take (j + m.closing.length)).drop i
  | none => m.opening ++ '\n' :: m.closing

/-- The document with a new body in the section, when there is one. -/
def replace? (m : Markers) (content body : Text) : Option Text :=
  (m.positions? content).map fun (i, j) =>
    content.take (i + m.opening.length) ++ '\n' :: body ++ '\n' :: content.drop j

end Markers

end ModuleDocs
