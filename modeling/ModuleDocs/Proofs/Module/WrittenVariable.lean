import ModuleDocs.Module.Category
import ModuleDocs.Proofs.Hcl.ItemLines
import ModuleDocs.Proofs.Hcl.WrittenDeclarations
import ModuleDocs.Proofs.Usage.WrittenConditions

/-! # Variables of three kinds, written and read back

    A required variable has neither default nor validation.  A trigger has a
    validation that lists its values.  A conditional variable is null by
    default, and its validation demands it for one value of a trigger.

    For plain names, values and messages the block of such a variable is one
    that the scan reads back, in either brace mode. -/

namespace ModuleDocs

open Text Hcl Condition

/-- The part that a written variable plays. -/
inductive Role where
  | required
  /-- Takes one of several values. -/
  | trigger (values : List Text)
  /-- Is demanded for one value of a trigger. -/
  | conditional (on value : Text)
deriving DecidableEq, Repr

namespace Role

/-- The condition of the validation of a variable of the given name, if it has one. -/
def condition? (name : Text) : Role → Option Text
  | required => none
  | trigger values => some (listing values name)
  | conditional on value => some (demand on value name)

/-- The default of a variable, if it has one. -/
def default? : Role → Option Text
  | conditional _ _ => some "null"
  | _ => none

/-- The category of variables that play the part. -/
def category : Role → Category
  | required => .required
  | trigger _ => .trigger
  | conditional _ _ => .conditional

/-- Whether the values and names in a role are plain, the values of a trigger being distinct. -/
def IsPlain : Role → Prop
  | required => True
  | trigger values => (∀ value ∈ values, value.all isPlain = true) ∧ values.Nodup
  | conditional on value => isName on = true ∧ value.all isPlain = true

instance : (r : Role) → Decidable r.IsPlain
  | required => inferInstanceAs (Decidable True)
  | trigger values =>
    inferInstanceAs (Decidable ((∀ value ∈ values, value.all isPlain = true) ∧ values.Nodup))
  | conditional on value =>
    inferInstanceAs (Decidable (isName on = true ∧ value.all isPlain = true))

end Role

/-- A variable as it is written: its name and its part. -/
structure WrittenVariable where
  name : Text
  role : Role
deriving DecidableEq, Repr

namespace WrittenVariable

/-- Whether the name and what stands in the role are plain. -/
structure IsPlain (v : WrittenVariable) : Prop where
  name : isName v.name = true
  role : v.role.IsPlain

instance (v : WrittenVariable) : Decidable v.IsPlain :=
  decidable_of_iff (isName v.name = true ∧ v.role.IsPlain)
    ⟨fun h => ⟨h.1, h.2⟩, fun h => ⟨h.name, h.role⟩⟩

/-- The fields of the block of a variable, whose validation fails with the given message. -/
def fields (message : Text) (v : WrittenVariable) : WrittenFields where
  type := some "string"
  default := v.role.default?
  rule := (v.role.condition? v.name).map fun condition => ⟨condition, message⟩

/-- The block of a variable. -/
def block (g : Margins) (message : Text) (v : WrittenVariable) : WrittenBlock :=
  ⟨v.name, '\n' :: writeItems g.outer ((v.fields message).items g)⟩

/-- The declaration that is read back. -/
def declaration (g : Margins) (message : Text) (v : WrittenVariable) : Declaration :=
  { (v.fields message).fields g with
    kind := "variable", name := v.name, rawBlock := (v.block g message).raw }

theorem raw_block (g : Margins) (message : Text) (v : WrittenVariable) :
    (v.block g message).raw = (v.fields message).block g := by
  rw [WrittenBlock.raw, WrittenFields.block, bracedItems, block, List.append_nil]

end WrittenVariable

/-! ## Kinds of characters -/

theorem isMark_of_isPlain {c : Char} (h : isPlain c = true) : isMark c = false :=
  isMark_eq_false (ne_of_class h (by decide)) (ne_of_class h (by decide))

theorem isMark_of_isIdentPart {c : Char} (h : isIdentPart c = true) : isMark c = false :=
  isMark_eq_false (ne_of_class h (by decide)) (ne_of_class h (by decide))

/-- The braces of a name balance: there are none. -/
theorem nested_name (m : BraceMode) {name : Text} (h : isName name = true) : Nested m name := by
  have hpart := isIdentPart_of_mem_name h
  refine nested_calm m fun c hc => ?_
  have hcalm : ∀ d ∈ ['"', '#', '/', '\x7b', '\x7d'], isIdentPart d = false := by decide
  have hnot : c ∉ ['"', '#', '/', '\x7b', '\x7d'] := by
    intro hmem
    have hfalse := hcalm c hmem
    rw [hpart c hc] at hfalse
    exact nomatch hfalse
  simpa [isCalm] using hnot

/-- The braces of a literal of a plain value balance. -/
theorem nested_literal (m : BraceMode) {value : Text} (h : value.all isPlain = true) :
    Nested m (literal value) := by
  refine nested_string m fun c hc => ?_
  have hplain := List.all_eq_true.mp h c hc
  have hopen : c ≠ '\x7b' := ne_of_class hplain (by decide)
  have hclose : c ≠ '\x7d' := ne_of_class hplain (by decide)
  exact ⟨ne_of_class hplain (by decide), ne_of_class hplain (by decide),
    by simp [isBrace, hopen, hclose]⟩

/-- The braces of a row of plain values balance. -/
theorem nested_literals (m : BraceMode) {values : List Text}
    (h : ∀ value ∈ values, value.all isPlain = true) :
    Nested m (join ", " (values.map literal)) := by
  induction values with
  | nil => exact nested_calm m (List.forall_mem_nil _)
  | cons value values ih =>
      have hvalue := nested_literal m (h value List.mem_cons_self)
      have hrest := ih fun v hv => h v (List.mem_cons_of_mem value hv)
      cases values with
      | nil =>
          have hjoin : join ", " ([value].map literal) = literal value :=
            List.intercalate_singleton
          rw [hjoin]
          exact hvalue
      | cons next values =>
          rw [List.map_cons, List.map_cons, join_cons_cons]
          exact (hvalue.append (nested_calm m (by decide))).append hrest

/-! ## Conditions as contents -/

section Condition

variable {v : WrittenVariable} (hv : v.IsPlain) {condition : Text}
  (hcondition : v.role.condition? v.name = some condition)
include hv hcondition

/-- A condition lists the values of a trigger, or it demands a conditional variable. -/
theorem WrittenVariable.condition_cases :
    (∃ values : List Text, (∀ value ∈ values, value.all isPlain = true) ∧
        condition = listing values v.name) ∨
      ∃ on value, isName on = true ∧ value.all isPlain = true ∧
        condition = demand on value v.name := by
  have hrole := hv.role
  cases hr : v.role with
  | required =>
      rw [hr] at hcondition
      exact absurd hcondition.symm (Option.some_ne_none condition)
  | trigger values =>
      rw [hr] at hcondition hrole
      exact .inl ⟨values, hrole.1, (Option.some.inj hcondition).symm⟩
  | conditional on value =>
      rw [hr] at hcondition hrole
      exact .inr ⟨on, value, hrole.1, hrole.2, (Option.some.inj hcondition).symm⟩

/-- A condition is trimmed. -/
theorem WrittenVariable.condition_trimmed : trim condition = condition := by
  rcases condition_cases hv hcondition with ⟨values, -, rfl⟩ | ⟨on, value, -, -, rfl⟩
  · have hshape : listing values v.name
        = "contains([" ++ (join ", " (values.map literal) ++ "], var." ++ v.name) ++ ")" := by
      unfold listing
      simp only [List.append_assoc]
    rw [hshape]
    exact trim_enclosed "contains([" _ ")" (by decide) (by decide)
  · have hshape : demand on value v.name
        = "var." ++ (on ++ " != \"" ++ value ++ "\" || var." ++ v.name) ++ " != null" := by
      unfold demand
      simp only [List.append_assoc]
    rw [hshape]
    exact trim_enclosed "var." _ " != null" (by decide) (by decide)

/-- A condition sets no field. -/
theorem WrittenVariable.condition_quiet : ¬ SetsField condition := by
  refine not_setsField_of_guarded ?_
  rcases condition_cases hv hcondition with
    ⟨values, hvalues, rfl⟩ | ⟨on, value, hon, hvalue, rfl⟩
  · exact guarded_of_no_mark (forall_mem_listing hv.name hvalues (by decide)
      (fun _ => isMark_of_isPlain) fun _ => isMark_of_isIdentPart)
  · have hon := isIdentPart_of_mem_name hon
    have hown := isIdentPart_of_mem_name hv.name
    have hshape : demand on value v.name
        = ("var." ++ on ++ [' ']) ++ '!' :: '=' ::
          ((" \"" ++ value ++ "\" || var." ++ v.name ++ [' ']) ++ '!' :: '=' :: " null") := by
      unfold demand
      simp
    rw [hshape]
    -- both signs are guarded, and nothing else in the pieces is a mark
    refine Guarded.append ?_ (Guarded.append ?_ (guarded_of_no_mark (by decide)))
    · intro c hc
      simp only [List.mem_append] at hc
      rcases hc with (hc | hc) | hc
      · exact (by decide : ∀ c ∈ ("var." : Text), isMark c = false) c hc
      · exact isMark_of_isIdentPart (hon c hc)
      · exact (by decide : ∀ c ∈ [' '], isMark c = false) c hc
    · intro c hc
      simp only [List.mem_append] at hc
      rcases hc with (((hc | hc) | hc) | hc) | hc
      · exact (by decide : ∀ c ∈ (" \"" : Text), isMark c = false) c hc
      · exact isMark_of_isPlain (List.all_eq_true.mp hvalue c hc)
      · exact (by decide : ∀ c ∈ ("\" || var." : Text), isMark c = false) c hc
      · exact isMark_of_isIdentPart (hown c hc)
      · exact (by decide : ∀ c ∈ [' '], isMark c = false) c hc

/-- The braces of a condition balance. -/
theorem WrittenVariable.condition_nested (m : BraceMode) : Nested m condition := by
  rcases condition_cases hv hcondition with
    ⟨values, hvalues, rfl⟩ | ⟨on, value, hon, hvalue, rfl⟩
  · unfold listing
    exact (((nested_calm m (by decide)).append (nested_literals m hvalues)).append
      (nested_calm m (by decide))).append (nested_name m hv.name) |>.append
        (nested_calm m (by decide))
  · have hrest : Nested m (" || var." ++ v.name ++ " != null") :=
      ((nested_calm m (by decide)).append (nested_name m hv.name)).append
        (nested_calm m (by decide))
    have hequals : Nested m [' ', '!', '=', ' '] := nested_calm m (by decide)
    rw [demand_eq]
    exact (nested_calm m (by decide)).append ((nested_name m hon).append
      (hequals.append ((nested_literal m hvalue).append hrest)))

end Condition

/-! ## Blocks -/

/-- A plain text between quotes is its literal. -/
theorem quoted_plain {t : Text} (h : t.all isPlain = true) : Hcl.quoted t = literal t := by
  rw [Hcl.quoted,
    escape_eq_self (not_mem_of_isPlain h (by decide)) (not_mem_of_isPlain h (by decide))]
  rfl

namespace WrittenVariable

section Block

variable {g : Margins} {message : Text} (hmessage : message.all isPlain = true)
  {v : WrittenVariable} (hv : v.IsPlain)

include hmessage hv

/-- The braces inside the validation of a variable balance. -/
theorem rule_nested (m : BraceMode) {condition : Text}
    (hcondition : v.role.condition? v.name = some condition) :
    Nested m ((⟨condition, message⟩ : WrittenRule).body g) := by
  have hnewline : Nested m ['\n'] := nested_calm m (by decide)
  have hclosing : Nested m g.closing :=
    nested_calm m fun c hc => isCalm_of_isBlank (g.closing_blank c hc)
  refine (hnewline.append (nested_writeItems m g.inner_blank ?_)).append hclosing
  intro i hi
  rcases List.mem_cons.mp hi with rfl | hi
  · exact nested_assign m (by decide) (condition_nested hv hcondition m)
  · obtain rfl := List.mem_singleton.mp hi
    refine nested_assign m (by decide) ?_
    show Nested m (Hcl.quoted message)
    rw [quoted_plain hmessage]
    exact nested_literal m hmessage

/-- The validation of a variable can be read back. -/
theorem rule_fits (m : BraceMode) {condition : Text}
    (hcondition : v.role.condition? v.name = some condition) :
    (⟨condition, message⟩ : WrittenRule).Fits m g := by
  have hmark : ∀ c ∈ message, isMark c = false :=
    fun c hc => isMark_of_isPlain (List.all_eq_true.mp hmessage c hc)
  exact ⟨condition_trimmed hv hcondition, condition_quiet hv hcondition,
    not_mem_of_isPlain hmessage (by decide), not_setsField_of_guarded (guarded_of_no_mark hmark),
    (rule_nested hmessage hv m hcondition).balanced⟩

end Block

end WrittenVariable

end ModuleDocs
