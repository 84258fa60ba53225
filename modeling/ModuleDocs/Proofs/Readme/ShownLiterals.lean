import ModuleDocs.Describe.Heuristic
import ModuleDocs.Proofs.Log
import ModuleDocs.Proofs.Usage.ComparedLiterals
import ModuleDocs.Readme.Document

/-! # Literals on their way to the README

    A value that a trigger lists goes to the README as the body of its
    literal, and is written there as a text that stands for itself.  So the
    README shows the body escaped: its own backslashes and quotes get
    another backslash, and the literal shown is the literal declared exactly
    if there are none. -/

namespace ModuleDocs

open Text Hcl Condition

/-! ## Bodies and escapes -/

/-- An escaped text can stand in a literal. -/
theorem isBody_escape (t : Text) : isBody (escape t) = true := by
  induction t with
  | nil => rfl
  | cons c t ih =>
      by_cases hc : c = '\\' ∨ c = '"'
      · have hline : (c != '\n') = true := by rcases hc with rfl | rfl <;> decide
        rw [escape_cons_escaped hc, isBody, hline, ih]
        rfl
      · obtain ⟨hslash, hquote⟩ := not_or.mp hc
        rw [escape_cons_plain hc, isBody_cons hslash, ih, Bool.and_true]
        simpa using hquote

namespace UsageStyle

/-- How the line of a name begins in an example of the given names. -/
def lineStart (s : UsageStyle) (names : List Text) (name : Text) : Text :=
  s.indent ++ padRight (widest names) name ++ " = "

end UsageStyle

end ModuleDocs
