import ModuleDocs.Proofs.Usage.ComparedLiterals

/-! # Conditions of several atoms

    A condition joins atoms with `&&` and `||`.  An atom compares a variable
    with a value, lists the values of a variable, or says that a variable is
    given.  The patterns that look for values know nothing of atoms: they may
    begin at any character.  Still each finds, atom by atom, just what the
    atom says about the variable that is asked for.

    Two observations carry the proof.  A call that lists values is found as a
    whole, and it cannot begin in an atom without opening bracket, whose last
    character would have to stand in the word `contains`.  And a comparison
    begins with the mark `var.`, which stands once in an atom and in none of
    its values, so its name is compared with the name of the atom as a whole. -/

namespace ModuleDocs.Condition

open Text

/-! ## Atoms -/

/-- How a variable is compared with a value. -/
inductive Operator where
  | equal
  | unequal
deriving DecidableEq, Repr

/-- The text of an operator. -/
def Operator.text : Operator → Text
  | equal => "=="
  | unequal => "!="

/-- A part of a condition, about one variable. -/
inductive Atom where
  | compared (name : Text) (operator : Operator) (value : Text)
  | contains (values : List Text) (name : Text)
  | given (name : Text)
deriving DecidableEq, Repr

/-- How an atom is joined to those before it. -/
inductive Junction where
  | and
  | or
deriving DecidableEq, Repr

/-- The text between two atoms. -/
def Junction.text : Junction → Text
  | and => " && "
  | or => " || "

namespace Atom

/-- The text of an atom. -/
def text : Atom → Text
  | compared name operator value =>
    "var." ++ (name ++ ' ' :: (operator.text ++ ' ' :: literal value))
  | contains values name => listing values name
  | given name => "var." ++ (name ++ " != null")

/-- The variable of an atom. -/
def name : Atom → Text
  | compared name _ _ => name
  | contains _ name => name
  | given name => name

/-- The values in an atom. -/
def values : Atom → List Text
  | compared _ _ value => [value]
  | contains values _ => values
  | given _ => []

/-- The values that an atom lists for a variable. -/
def listedFor (asked : Text) : Atom → List Text
  | contains values name => if name = asked then values else []
  | _ => []

/-- The values that an atom compares a variable with. -/
def comparedFor (asked : Text) : Atom → List Text
  | compared name _ value => if name = asked then [value] else []
  | _ => []

end Atom

/-- Whether a value holds nothing that a pattern could take for code: no quote, backslash or
bracket, and no mark of variables. -/
structure IsInert (value : Text) : Prop where
  marks : ∀ c ∈ value, c ∉ ['"', '\\', '[', ']']
  unmarked : ¬ ("var." : Text) <:+: value

/-- Whether the variable of an atom is an identifier and its values are inert. -/
structure Atom.IsPlain (a : Atom) : Prop where
  name : isIdentifier a.name = true
  values : ∀ value ∈ a.values, IsInert value

/-- The text of a condition: its atoms, each after its junction, and nothing before the first. -/
def joined : List (Junction × Atom) → Text
  | [] => []
  | (_, a) :: rest => a.text ++ rest.flatMap fun part => part.1.text ++ part.2.text

/-! ## Inert values -/

theorem IsInert.not_mem {value : Text} (h : IsInert value) {c : Char}
    (hc : c ∈ ['"', '\\', '[', ']']) : c ∉ value := fun hmem => h.marks c hmem hc

/-- A text without quotes and backslashes is the body of a literal. -/
theorem isBody_of_not_mem {t : Text} (hquote : '"' ∉ t) (hslash : '\\' ∉ t) : isBody t = true := by
  induction t with
  | nil => rfl
  | cons c t ih =>
      obtain ⟨hquote', hquote⟩ := not_or.mp (mt List.mem_cons.mpr hquote)
      obtain ⟨hslash', hslash⟩ := not_or.mp (mt List.mem_cons.mpr hslash)
      rw [isBody_cons (Ne.symm hslash'), ih hquote hslash, Bool.and_true]
      simpa using Ne.symm hquote'

theorem IsInert.isBody {value : Text} (h : IsInert value) : isBody value = true :=
  isBody_of_not_mem (h.not_mem (by decide)) (h.not_mem (by decide))

/-- An inert value does not end in a comparison. -/
theorem IsInert.not_endsInComparison {value : Text} (h : IsInert value) (name : Text) :
    ¬ EndsInComparison name value := by
  rintro ⟨x, hsuffix, hx⟩
  exact h.unmarked (hx.varMark_prefix.isInfix.trans hsuffix.isInfix)

/-! ## Calls -/

/-- The call that an atom holds, as it is found: the text of the list and the variable. -/
def Atom.calls : Atom → List (Text × Text)
  | contains values name => [(join ", " (values.map literal), name)]
  | _ => []

/-- A call begins with its word. -/
theorem containsCall?_eq_none_of_head {c : Char} (hc : 'c' ≠ c) (t : Text) :
    containsCall? (c :: t) = none := by
  have hword : ("contains" : Text) = 'c' :: "ontains" := by decide
  rw [containsCall?, hword, dropPrefix?_eq_none_of_head hc]
  rfl

/-- Up to its opening bracket a call holds its word, white space and a parenthesis. -/
theorem forall_mem_of_containsCall? {x rest : Text} {found : (Text × Text) × Text}
    (h : containsCall? (x ++ rest) = some found) (hx : '[' ∉ x) :
    ∀ c ∈ x, c ∈ ("contains(" : Text) ∨ isSpace c = true := by
  rw [containsCall?] at h
  obtain ⟨behind, hbehind, h⟩ := Option.bind_eq_some_iff.mp h
  obtain ⟨opened, hopened, h⟩ := Option.bind_eq_some_iff.mp h
  obtain ⟨list, hlist, -⟩ := Option.bind_eq_some_iff.mp h
  obtain ⟨space, rfl, hspace⟩ := exists_of_afterMark? hopened
  obtain ⟨gap, rfl, hgap⟩ := exists_of_afterMark? hlist
  -- the call up to its bracket, of which `x` is the beginning
  obtain ⟨front, hfront, hchars⟩ : ∃ front, x ++ rest = front ++ '[' :: list ∧
      ∀ c ∈ front, c ∈ ("contains(" : Text) ∨ isSpace c = true := by
    refine ⟨"contains" ++ (space ++ '(' :: gap), ?_, ?_⟩
    · rw [dropPrefix?_eq_some_iff.mp hbehind]
      simp only [List.append_assoc, List.cons_append, List.nil_append]
    · intro c hc
      simp only [List.mem_append, List.mem_cons] at hc
      rcases hc with hc | hc | rfl | hc
      · have hword : ("contains(" : Text) = "contains" ++ ['('] := by decide
        exact .inl (hword ▸ List.mem_append_left _ hc)
      · exact .inr (hspace c hc)
      · exact .inl (by decide)
      · exact .inr (hgap c hc)
  rcases List.append_eq_append_iff.mp hfront with ⟨more, hmore, -⟩ | ⟨more, hmore, htail⟩
  · exact fun c hc => hchars c (hmore ▸ List.mem_append_left more hc)
  · cases more with
    | nil => exact fun c hc => hchars c (by rwa [hmore, List.append_nil] at hc)
    | cons d more =>
        obtain rfl := (List.cons.inj htail).1
        exact absurd (hmore ▸ List.mem_append_right front List.mem_cons_self) hx

/-- No call begins in a text without opening bracket whose last character has no place in a call
before its bracket. -/
theorem allMatches_calls_append {u : Text} {last : Char} (hlast : [last] <:+ u)
    (hplace : last ∉ ("contains(" : Text)) (hspace : isSpace last = false) (hu : '[' ∉ u)
    (rest : Text) : allMatches containsCall? (u ++ rest) = allMatches containsCall? rest := by
  refine allMatches_append fun x hne hsuffix => ?_
  refine Option.eq_none_iff_forall_ne_some.mpr fun found hread => ?_
  have hmem : last ∈ x :=
    (List.suffix_of_suffix_length_le hlast hsuffix (List.length_pos_iff.mpr hne)).subset
      List.mem_cons_self
  rcases forall_mem_of_containsCall? hread (fun h => hu (hsuffix.subset h)) last hmem with h | h
  · exact hplace h
  · exact absurd (hspace.symm.trans h) Bool.false_ne_true

/-- In an atom its call is found, if it has one, and no other. -/
theorem allMatches_calls_atom {a : Atom} (ha : a.IsPlain) (rest : Text) :
    allMatches containsCall? (a.text ++ rest) = a.calls ++ allMatches containsCall? rest := by
  have hname : '[' ∉ a.name := not_mem_of_isIdentifier ha.name (by decide)
  have hvalues : ∀ value ∈ a.values, '[' ∉ value :=
    fun value hvalue => (ha.values value hvalue).not_mem (by decide)
  cases a with
  | compared name operator value =>
      have hvalue : '[' ∉ value := hvalues value List.mem_cons_self
      have hoperator : '[' ∉ operator.text := by cases operator <;> decide
      have hcode : '[' ∉ (Atom.compared name operator value).text := by
        simp only [Atom.text, literal, List.mem_append, List.mem_cons, not_or]
        exact ⟨by decide, hname, by decide, hoperator, by decide, by decide, hvalue, by decide,
          List.not_mem_nil⟩
      have hlast : ['"'] <:+ (Atom.compared name operator value).text :=
        ⟨"var." ++ name ++ [' '] ++ operator.text ++ [' ', '"'] ++ value, by
          simp [Atom.text, literal]⟩
      exact allMatches_calls_append hlast (by decide) (by decide) hcode rest
  | contains values name =>
      have hne : listing values name ≠ [] := by
        unfold listing
        simp
      have hread := containsCall?_listing ha.name
        (fun value hvalue => (ha.values value hvalue).not_mem (by decide)) rest
      exact allMatches_match hne hread
  | given name =>
      have hcode : '[' ∉ (Atom.given name).text := by
        simp only [Atom.text, List.mem_append, not_or]
        exact ⟨by decide, hname, by decide⟩
      have hlast : ['l'] <:+ (Atom.given name).text :=
        ⟨"var." ++ name ++ " != nul", by simp [Atom.text]⟩
      exact allMatches_calls_append hlast (by decide) (by decide) hcode rest

/-- Between atoms no call begins. -/
theorem allMatches_calls_junction (j : Junction) (rest : Text) :
    allMatches containsCall? (j.text ++ rest) = allMatches containsCall? rest := by
  refine allMatches_append fun x hne hsuffix => ?_
  cases x with
  | nil => exact absurd rfl hne
  | cons c x =>
      have hc : c ∈ j.text := hsuffix.subset List.mem_cons_self
      refine containsCall?_eq_none_of_head ?_ (x ++ rest)
      rintro rfl
      cases j <;> exact absurd hc (by decide)

/-! ## Comparisons -/

section Comparisons

variable {asked : Text}

/-- No comparison begins in a text without the first letter of the mark of variables. -/
theorem allMatches_comparison_unmarked {u : Text} (hu : 'v' ∉ u) (rest : Text) :
    allMatches (comparison? asked) (u ++ rest) = allMatches (comparison? asked) rest := by
  refine allMatches_append fun x hne hsuffix => ?_
  cases x with
  | nil => exact absurd rfl hne
  | cons c x =>
      refine comparison?_eq_none_of_head ?_ (x ++ rest)
      rintro rfl
      exact hu (hsuffix.subset List.mem_cons_self)

/-- A text with one mark of variables, which does not end within a mark, is crossed when no
comparison begins at the mark. -/
theorem allMatches_comparison_marked {front behind : Text} {last : Char} (hfront : '.' ∉ front)
    (hbehind : '.' ∉ behind) (hlast : [last] <:+ behind) (hplace : last ∉ ("var." : Text))
    {rest : Text} (hnone : comparison? asked ("var." ++ (behind ++ rest)) = none) :
    allMatches (comparison? asked) (front ++ ("var." ++ behind) ++ rest)
      = allMatches (comparison? asked) rest := by
  refine allMatches_append fun x hne hsuffix => ?_
  refine Option.eq_none_iff_forall_ne_some.mpr fun found hread => ?_
  -- a comparison that begins in `x` begins with the mark, and the mark ends in `x`
  have hmark : ("var." : Text) <+: x := by
    obtain ⟨start, after, hsplit, hstart⟩ := isComparison_of_comparison? hread
    have hwhole : ("var." : Text) <+: x ++ rest :=
      hsplit ▸ hstart.varMark_prefix.trans (List.prefix_append _ _)
    rcases List.prefix_or_prefix_of_prefix hwhole (List.prefix_append x rest) with h | h
    · exact h
    · have hends : [last] <:+ front ++ ("var." ++ behind) :=
        hlast.trans ((List.suffix_append _ _).trans (List.suffix_append _ _))
      have hmem := List.suffix_of_suffix_length_le hends hsuffix (List.length_pos_iff.mpr hne)
      exact absurd (h.subset (hmem.subset List.mem_cons_self)) hplace
  obtain ⟨after, rfl⟩ := hmark
  obtain ⟨before, hbefore⟩ := hsuffix
  -- there is one dot, so the mark is the one of the text
  have hdot : ∀ t : Text, ("var." : Text) ++ t = ['v', 'a', 'r'] ++ '.' :: t := by
    intro t
    rw [varMark_eq]
    rfl
  have hsame : (before ++ ['v', 'a', 'r']) ++ '.' :: after
      = (front ++ ['v', 'a', 'r']) ++ '.' :: behind := by
    rw [hdot, hdot] at hbefore
    simpa only [List.append_assoc] using hbefore
  have hleft : '.' ∉ front ++ ['v', 'a', 'r'] := by
    rw [List.mem_append, not_or]
    exact ⟨hfront, by decide⟩
  obtain ⟨-, -, rfl⟩ := (List.append_cons_inj_of_notMem hleft hbehind).mp hsame.symm
  rw [List.append_assoc, hnone] at hread
  exact nomatch hread

/-- Behind the variable that is asked for an operator and a literal decide. -/
theorem comparison?_named (name t : Text) :
    comparison? name ("var." ++ (name ++ t))
      = ((afterMark? "!=" t).or (afterMark? "==" t)).bind fun t => stringLiteral? (trimStart t) := by
  rw [comparison?, dropPrefix?_append_append, dropPrefix?_append]
  rfl

variable (hasked : isIdentifier asked = true)
include hasked

/-- An inert literal is crossed. -/
theorem allMatches_comparison_inert {value : Text} (hvalue : IsInert value) (rest : Text) :
    allMatches (comparison? asked) (literal value ++ rest)
      = allMatches (comparison? asked) rest :=
  allMatches_body hasked hvalue.isBody (hvalue.not_endsInComparison asked) rest

/-- Inert literals in a row are crossed. -/
theorem allMatches_comparison_literals {values : List Text} (h : ∀ value ∈ values, IsInert value)
    (rest : Text) :
    allMatches (comparison? asked) (join ", " (values.map literal) ++ rest)
      = allMatches (comparison? asked) rest := by
  induction values with
  | nil => rfl
  | cons value values ih =>
      have hvalue := h value List.mem_cons_self
      have hrest := ih fun v hv => h v (List.mem_cons_of_mem value hv)
      cases values with
      | nil =>
          have hjoin : join ", " ([value].map literal) = literal value := by simp [join]
          rw [hjoin]
          exact allMatches_comparison_inert hasked hvalue rest
      | cons next values =>
          rw [List.map_cons, List.map_cons, join_cons_cons, List.append_assoc, List.append_assoc,
            allMatches_comparison_inert hasked hvalue, allMatches_comparison_unmarked (by decide)]
          exact hrest

/-- A comparison with an inert value is found when its variable is asked for, and else it is
crossed. -/
theorem allMatches_comparison_compared {name value : Text} (hname : isIdentifier name = true)
    (operator : Operator) (hvalue : IsInert value) (rest : Text) :
    allMatches (comparison? asked) ((Atom.compared name operator value).text ++ rest)
      = (if name = asked then [value] else []) ++ allMatches (comparison? asked) rest := by
  -- the comparison without its value
  obtain ⟨code, hcode⟩ : ∃ code, code = name ++ ([' '] ++ (operator.text ++ [' '])) := ⟨_, rfl⟩
  have hshape : (Atom.compared name operator value).text ++ rest
      = [] ++ (("var." : Text) ++ code) ++ (literal value ++ rest) := by
    rw [hcode]
    simp [Atom.text]
  rw [hshape]
  by_cases heq : name = asked
  · subst heq
    have hcomparison : IsComparison name ("var." ++ code) := by
      refine ⟨[' '], operator.text, [' '], by rw [hcode], ?_, by decide, by decide⟩
      cases operator with
      | equal => exact .inr rfl
      | unequal => exact .inl rfl
    have hread := comparison?_of_isComparison hcomparison hvalue.isBody rest
    have hne : ("var." : Text) ++ code ++ literal value ≠ [] := by simp
    rw [if_pos rfl, List.nil_append, ← List.append_assoc]
    rw [← List.append_assoc] at hread
    exact allMatches_match hne hread
  · have hdot : '.' ∉ code := by
      rw [hcode]
      simp only [List.mem_append, not_or]
      refine ⟨not_mem_of_isIdentifier hname (by decide), by decide, ?_, by decide⟩
      cases operator <;> decide
    have hlast : [' '] <:+ code :=
      ⟨name ++ ([' '] ++ operator.text), by rw [hcode]; simp only [List.append_assoc]⟩
    have hother : comparison? asked ("var." ++ (code ++ (literal value ++ rest))) = none := by
      have hspace : code ++ (literal value ++ rest)
          = name ++ ' ' :: (operator.text ++ ' ' :: (literal value ++ rest)) := by
        rw [hcode]
        simp
      rw [hspace]
      exact comparison?_other hasked hname (Ne.symm heq) (by decide) _
    rw [if_neg heq, allMatches_comparison_marked (List.not_mem_nil) hdot hlast (by decide) hother]
    exact allMatches_comparison_inert hasked hvalue rest

/-- A call that lists values is crossed: behind its list stands one mark, and no comparison goes on
behind the variable. -/
theorem allMatches_comparison_contains {values : List Text} {name : Text}
    (hname : isIdentifier name = true) (hvalues : ∀ value ∈ values, IsInert value) (rest : Text) :
    allMatches (comparison? asked) ((Atom.contains values name).text ++ rest)
      = allMatches (comparison? asked) rest := by
  have hshape : ∀ list : Text,
      "contains([" ++ list ++ "], var." ++ name ++ ")" ++ rest
        = "contains([" ++ (list ++ ("], " ++ ("var." ++ (name ++ [')'])) ++ rest)) := by
    intro list
    simp
  have hbehind : '.' ∉ name ++ [')'] := by
    rw [List.mem_append, not_or]
    exact ⟨not_mem_of_isIdentifier hname (by decide), by decide⟩
  have hlast : [')'] <:+ name ++ [')'] := List.suffix_append name [')']
  have hnone : comparison? asked ("var." ++ (name ++ [')'] ++ rest)) = none := by
    rw [List.append_assoc, List.singleton_append]
    by_cases heq : asked = name
    · rw [heq, comparison?_named]
      rfl
    · exact comparison?_other hasked hname heq (by decide) rest
  show allMatches (comparison? asked) (listing values name ++ rest) = _
  unfold listing
  rw [hshape, allMatches_comparison_unmarked (by decide),
    allMatches_comparison_literals hasked hvalues]
  exact allMatches_comparison_marked (by decide) hbehind hlast (by decide) hnone

/-- An atom that says that a variable is given is crossed: no literal follows its operator. -/
theorem allMatches_comparison_given {name : Text} (hname : isIdentifier name = true) (rest : Text) :
    allMatches (comparison? asked) ((Atom.given name).text ++ rest)
      = allMatches (comparison? asked) rest := by
  have hbehind : '.' ∉ name ++ (" != null" : Text) := by
    rw [List.mem_append, not_or]
    exact ⟨not_mem_of_isIdentifier hname (by decide), by decide⟩
  have hlast : ['l'] <:+ name ++ (" != null" : Text) := ⟨name ++ (" != nul" : Text), by simp⟩
  have hnone : comparison? asked ("var." ++ (name ++ (" != null" : Text) ++ rest)) = none := by
    rw [List.append_assoc]
    by_cases heq : asked = name
    · rw [heq, comparison?_named]
      rfl
    · exact comparison?_other hasked hname heq (by decide) _
  exact allMatches_comparison_marked List.not_mem_nil hbehind hlast (by decide) hnone

/-- In an atom exactly the comparison with the variable that is asked for is found. -/
theorem allMatches_comparison_atom {a : Atom} (ha : a.IsPlain) (rest : Text) :
    allMatches (comparison? asked) (a.text ++ rest)
      = a.comparedFor asked ++ allMatches (comparison? asked) rest := by
  cases a with
  | compared name operator value =>
      exact allMatches_comparison_compared hasked ha.name operator
        (ha.values value List.mem_cons_self) rest
  | contains values name => exact allMatches_comparison_contains hasked ha.name ha.values rest
  | given name => exact allMatches_comparison_given hasked ha.name rest

omit hasked in
/-- Between atoms no comparison begins. -/
theorem allMatches_comparison_junction (j : Junction) (rest : Text) :
    allMatches (comparison? asked) (j.text ++ rest) = allMatches (comparison? asked) rest := by
  refine allMatches_comparison_unmarked ?_ rest
  cases j <;> decide

end Comparisons

/-! ## Conditions -/

/-- What is found in a condition is what is found in its atoms, in their order, when between atoms
nothing is found. -/
theorem allMatches_joined {α : Type} {read : Text → Option (α × Text)} {found : Atom → List α}
    {parts : List (Junction × Atom)}
    (hatom : ∀ part ∈ parts, ∀ rest, allMatches read (part.2.text ++ rest)
      = found part.2 ++ allMatches read rest)
    (hjunction : ∀ (j : Junction) (rest : Text), allMatches read (j.text ++ rest)
      = allMatches read rest) :
    allMatches read (joined parts) = parts.flatMap fun part => found part.2 := by
  have hbehind : ∀ rest : List (Junction × Atom), rest ⊆ parts →
      allMatches read (rest.flatMap fun part => part.1.text ++ part.2.text)
        = rest.flatMap fun part => found part.2 := by
    intro rest hrest
    induction rest with
    | nil => rfl
    | cons part rest ih =>
        obtain ⟨hpart, hrest⟩ := List.cons_subset.mp hrest
        rw [List.flatMap_cons, List.flatMap_cons, List.append_assoc, hjunction, hatom part hpart,
          ih hrest]
  cases parts with
  | nil => rfl
  | cons part rest =>
      show allMatches read (part.2.text ++ _) = _
      rw [hatom part List.mem_cons_self, hbehind rest (List.subset_cons_self part rest),
        List.flatMap_cons]

/-- The values that the calls of an atom list for a variable. -/
theorem flatMap_calls {a : Atom} (ha : a.IsPlain) (asked : Text) :
    (a.calls.flatMap fun call => if call.2 = asked then allMatches stringLiteral? call.1 else [])
      = a.listedFor asked := by
  cases a with
  | contains values name =>
      have hvalues : allMatches stringLiteral? (join ", " (values.map literal)) = values :=
        allMatches_literals fun value hvalue => (ha.values value hvalue).isBody
      rw [Atom.calls, List.flatMap_singleton]
      show (if name = asked then allMatches stringLiteral? _ else []) = _
      rw [hvalues]
      rfl
  | _ => rfl

theorem Atom.listedFor_of_ne {a : Atom} {asked : Text} (h : a.name ≠ asked) :
    a.listedFor asked = [] := by
  cases a with
  | contains values name => exact if_neg h
  | _ => rfl

theorem Atom.comparedFor_of_ne {a : Atom} {asked : Text} (h : a.name ≠ asked) :
    a.comparedFor asked = [] := by
  cases a with
  | compared name operator value => exact if_neg h
  | _ => rfl

section Joined

variable {parts : List (Junction × Atom)} (hparts : ∀ part ∈ parts, part.2.IsPlain)
include hparts

/-- The listed values of a condition are those of its calls on the variable. -/
theorem listedValues_joined (asked : Text) :
    listedValues (joined parts) asked
      = (parts.flatMap fun part => part.2.listedFor asked).eraseDups := by
  have hcalls : allMatches containsCall? (joined parts) = parts.flatMap fun part => part.2.calls :=
    allMatches_joined (fun part hpart => allMatches_calls_atom (hparts part hpart))
      allMatches_calls_junction
  rw [listedValues, hcalls, List.flatMap_assoc]
  exact congrArg List.eraseDups
    (List.flatMap_congr fun part hpart => flatMap_calls (hparts part hpart) asked)

/-- The values that a condition refers to are those of its comparisons with the variable, then the
listed ones. -/
theorem referencedValues_joined {asked : Text} (hasked : isIdentifier asked = true) :
    referencedValues (joined parts) asked
      = ((parts.flatMap fun part => part.2.comparedFor asked) ++
          (parts.flatMap fun part => part.2.listedFor asked).eraseDups).eraseDups := by
  have hcomparisons : allMatches (comparison? asked) (joined parts)
      = parts.flatMap fun part => part.2.comparedFor asked :=
    allMatches_joined (fun part hpart => allMatches_comparison_atom hasked (hparts part hpart))
      allMatches_comparison_junction
  rw [referencedValues, hcomparisons, listedValues_joined hparts]

end Joined

/-- Of a condition the atoms on exactly the variable that is asked for are found, whatever other
variables it mentions: the listed values are those of its calls, and the values that are referred to
those of its comparisons and then the listed ones, each value once and where it occurs first.  The
atoms on other variables could as well be left out. -/
theorem values_joined {parts : List (Junction × Atom)} (hparts : ∀ part ∈ parts, part.2.IsPlain)
    {asked : Text} (hasked : isIdentifier asked = true) :
    let listed := parts.flatMap fun part => part.2.listedFor asked
    let compared := parts.flatMap fun part => part.2.comparedFor asked
    let own := parts.filter fun part => part.2.name = asked
    listedValues (joined parts) asked = listed.eraseDups ∧
      referencedValues (joined parts) asked = (compared ++ listed).eraseDups ∧
      listedValues (joined own) asked = listedValues (joined parts) asked ∧
      referencedValues (joined own) asked = referencedValues (joined parts) asked := by
  intro listed compared own
  have hown : ∀ part ∈ own, part.2.IsPlain := fun part hpart =>
    hparts part (List.mem_filter.mp hpart).1
  have hlisted : own.flatMap (fun part => part.2.listedFor asked) = listed :=
    flatMap_filter_eq (fun _ _ _ => rfl) fun part _ hother =>
      Atom.listedFor_of_ne (of_decide_eq_false hother)
  have hcompared : own.flatMap (fun part => part.2.comparedFor asked) = compared :=
    flatMap_filter_eq (fun _ _ _ => rfl) fun part _ hother =>
      Atom.comparedFor_of_ne (of_decide_eq_false hother)
  refine ⟨listedValues_joined hparts asked, ?_, ?_, ?_⟩
  · rw [referencedValues_joined hparts hasked]
    exact eraseDups_append_eraseDups compared listed
  · rw [listedValues_joined hown, listedValues_joined hparts, hlisted]
  · rw [referencedValues_joined hown hasked, referencedValues_joined hparts hasked, hlisted,
      hcompared]

/-- Names of which one begins the other, a value that is compared and listed, and a condition on the
variable itself. -/
theorem values_joined_prefixes :
    let parts : List (Junction × Atom) :=
      [(.or, .contains ["a", "b", "a"] "mode"), (.and, .compared "mode-2" .unequal "x"),
        (.or, .compared "mode" .equal "c"), (.and, .contains ["y"] "mod"), (.or, .given "mode"),
        (.and, .compared "mode" .unequal "b")]
    (∀ part ∈ parts, part.2.IsPlain) ∧ isIdentifier "mode" = true ∧
      listedValues (joined parts) "mode" = ["a", "b"] ∧
      referencedValues (joined parts) "mode" = ["c", "b", "a"] := by
  intro parts
  have hnames : ∀ part ∈ parts, isIdentifier part.2.name = true := by decide
  have hinert : ∀ part ∈ parts, ∀ value ∈ part.2.values,
      (∀ c ∈ value, c ∉ ['"', '\\', '[', ']']) ∧ ¬ ("var." : Text) <:+: value := by decide
  have hplain : ∀ part ∈ parts, part.2.IsPlain := fun part hpart =>
    ⟨hnames part hpart, fun value hvalue =>
      ⟨(hinert part hpart value hvalue).1, (hinert part hpart value hvalue).2⟩⟩
  have hasked : isIdentifier "mode" = true := by decide
  obtain ⟨hlisted, hreferenced, -, -⟩ := values_joined hplain hasked
  exact ⟨hplain, hasked, hlisted, hreferenced⟩

end ModuleDocs.Condition
