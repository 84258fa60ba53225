import ModuleDocs.Proofs.Readme.ShownLiterals
import ModuleDocs.Proofs.Readme.UsageSections

/-! # The lines of an example

    The lines between the source of an example and its closing brace give
    each name a value.  The names are padded to the widest of them, so the
    equals signs stand in one column, whatever the names are.

    The value of a line is read back from the quote that opens it: escaping
    leaves no quote without a backslash before it and no backslash alone, so
    the literal ends where it was ended, and the comment behind it ends the
    expression.

    The names of an example come from sets.  A set of names has one order by
    code point, so an example depends on the sets alone, and neither on the
    order in which names were given nor on how often. -/

namespace ModuleDocs

open Text Hcl Condition

namespace Text

/-! ## Widths -/

theorem length_padRight {width : Nat} {t : Text} (h : t.length ≤ width) :
    (padRight width t).length = width := by
  rw [padRight, List.length_append, List.length_replicate]
  exact Nat.add_sub_cancel' h

/-- The first of several texts is the widest, or one of the others is. -/
theorem widest_cons (t : Text) (ts : List Text) : widest (t :: ts) = max t.length (widest ts) := by
  -- the widest so far is carried along, so it stays open in the induction
  have hcarry : ∀ (ts : List Text) (w : Nat),
      ts.foldl (fun w t => max w t.length) w = max w (widest ts) := by
    intro ts
    induction ts with
    | nil => exact fun w => (Nat.max_zero w).symm
    | cons u ts ih =>
        intro w
        rw [widest, List.foldl_cons, List.foldl_cons, ih, ih, Nat.zero_max, Nat.max_assoc]
  rw [widest, List.foldl_cons, hcarry, Nat.zero_max]

/-- The width of several texts is the greatest of their lengths. -/
theorem isGreatest_widest {ts : List Text} (hne : ts ≠ []) :
    IsGreatest {n | ∃ t ∈ ts, t.length = n} (widest ts) := by
  induction ts with
  | nil => exact absurd rfl hne
  | cons t ts ih =>
      rw [widest_cons]
      by_cases hts : ts = []
      · subst hts
        refine ⟨⟨t, List.mem_cons_self, (Nat.max_zero _).symm⟩, ?_⟩
        rintro n ⟨u, hu, rfl⟩
        obtain rfl := List.mem_singleton.mp hu
        exact Nat.le_max_left _ _
      · obtain ⟨⟨w, hw, hwidest⟩, hbound⟩ := ih hts
        refine ⟨?_, ?_⟩
        · rcases Nat.le_total t.length (widest ts) with hle | hle
          · exact ⟨w, List.mem_cons_of_mem t hw, hwidest.trans (Nat.max_eq_right hle).symm⟩
          · exact ⟨t, List.mem_cons_self, (Nat.max_eq_left hle).symm⟩
        · rintro n ⟨u, hu, rfl⟩
          rcases List.mem_cons.mp hu with rfl | hu
          · exact Nat.le_max_left _ _
          · exact (hbound ⟨u, hu, rfl⟩).trans (Nat.le_max_right _ _)

end Text

theorem pairwise_nameSet (names : List Text) : (nameSet names).Pairwise Precedes :=
  pairwise_precedes_sort (nodup_eraseDups names)

/-- Names that make the same set have one order. -/
theorem nameSet_congr {names others : List Text} (h : ∀ name, name ∈ names ↔ name ∈ others) :
    nameSet names = nameSet others := by
  have hperm : (nameSet names).Perm (nameSet others) :=
    (List.perm_ext_iff_of_nodup (nodup_sort (nodup_eraseDups names))
      (nodup_sort (nodup_eraseDups others))).mpr fun name =>
        mem_nameSet.trans ((h name).trans mem_nameSet.symm)
  exact hperm.eq_of_pairwise (fun _ _ _ _ => Text.le_antisymm) (pairwise_sort _) (pairwise_sort _)

/-! ## Values read back -/

/-- A literal is read to its closing quote, whatever brackets and comments its body holds. -/
theorem Hcl.expressionSpan_quoted {body : Text} (h : isBody body = true) (depth : Nat)
    (rest : Text) :
    expressionSpan .quoted depth (body ++ '"' :: rest)
      = body ++ '"' :: expressionSpan .code depth rest := by
  fun_induction isBody body with
  | case1 => rfl
  | case2 => exact absurd h (by decide)
  | case3 c t ih =>
      obtain ⟨-, hrest⟩ := Bool.and_eq_true_iff.mp h
      show '\\' :: c :: expressionSpan .quoted depth (t ++ '"' :: rest) = _
      rw [ih hrest]
      rfl
  | case4 c t hlast hescape ih =>
      have hslash : c ≠ '\\' := ne_backslash_of_alone hlast hescape
      obtain ⟨hquote, hrest⟩ := Bool.and_eq_true_iff.mp h
      have hquote : c ≠ '"' := by simpa using hquote
      rw [List.cons_append, expressionSpan, if_neg hslash, if_neg hquote, ih hrest]
      rfl

namespace UsageStyle

/-- The comment behind a value that is required under a condition. -/
def remark : Option Text → Text
  | some condition => "  # Required when " ++ condition
  | none => []

/-- A line is its start, the escaped value in quotes, and the comment. -/
theorem assignment_eq_remark (s : UsageStyle) (names : List Text) (name value : Text)
    (condition : Option Text) :
    s.assignment (widest names) name value condition
      = s.lineStart names name ++ (literal (escape value) ++ remark condition) := by
  have hmark : (" = \"" : Text) = " = " ++ ['"'] := by decide
  have hliteral : ∀ t : Text, literal t = ['"'] ++ (t ++ ['"']) := fun _ => rfl
  unfold assignment lineStart remark
  cases condition with
  | none => simp only [hmark, hliteral, List.append_assoc, List.append_nil]
  | some c => simp only [hmark, hliteral, List.append_assoc]

/-- Before a comment a literal is the whole expression. -/
theorem expressionOf_literal {body : Text} (h : isBody body = true) (condition : Option Text) :
    expressionOf (literal body ++ remark condition) = literal body := by
  have hspan : expressionSpan .code 0 (literal body ++ remark condition)
      = literal body ++ expressionSpan .code 0 (remark condition) := by
    have hshape : ∀ rest, literal body ++ rest = '"' :: (body ++ '"' :: rest) := by simp [literal]
    rw [hshape, hshape]
    exact congrArg ('"' :: ·) (expressionSpan_quoted h 0 _)
  have hspaces : ∀ c ∈ expressionSpan .code 0 (remark condition), isSpace c = true := by
    cases condition with
    | none => exact List.forall_mem_nil _
    | some c => exact (by decide : ∀ c ∈ [' ', ' '], isSpace c = true)
  have htrim : trim (literal body) = literal body := trim_enclosed ['"'] body ['"'] rfl rfl
  rw [expressionOf, hspan]
  exact trim_append_spaces htrim hspaces

/-- Every assignment is read back, whatever the names, the values and the conditions are.  Behind
the start of its line the scanner reads one literal and nothing of the comment, and what stands
between the quotes is, unescaped, the value that is to be shown. -/
theorem assignments_read_back (s : UsageStyle) (names : List Text)
    (values conditions : List (Text × Text)) :
    List.Forall₂ (fun name line =>
        ∃ body, line = s.lineStart names name ++ (literal body ++ remark (conditions.lookup name)) ∧
          isBody body = true ∧
          readExpression line (s.lineStart names name).length = literal body ∧
          unescape body = (values.lookup name).getD (s.placeholder name))
      names (s.assignments names values conditions) := by
  rw [assignments, List.forall₂_map_right_iff, List.forall₂_same]
  intro name _
  refine ⟨_, s.assignment_eq_remark names name _ _, isBody_escape _, ?_, unescape_escape _⟩
  rw [assignment_eq_remark, readExpression, List.drop_left]
  exact expressionOf_literal (isBody_escape _) _

/-! ## The example of a group -/

theorem length_lineStart (s : UsageStyle) {names : List Text} {name : Text} (h : name ∈ names) :
    (s.lineStart names name).length = s.indent.length + widest names + 3 := by
  have hfits : name.length ≤ widest names :=
    (isGreatest_widest (List.ne_nil_of_mem h)).2 ⟨name, h, rfl⟩
  rw [lineStart, List.length_append, List.length_append, length_padRight hfits]
  rfl

/-- An example that gives each of some names a value.  The names stand once each and in order, in
lines of their own behind the source and an empty line.  The equals signs stand in the column behind
the indent and the longest name, and behind them the escaped value of each name and its comment. -/
structure IsExample (s : UsageStyle) (info : ModuleMeta) (names : List Text)
    (value comment : Text → Text) (text : Text) : Prop where
  ordered : names.Pairwise Precedes
  longest : IsGreatest {n | ∃ name ∈ names, name.length = n} (widest names)
  column : ∀ name ∈ names, ∃ front, s.lineStart names name = front ++ " = " ∧
    s.indent ++ name <+: front ∧ front.length = s.indent.length + widest names
  lines : text = join ['\n']
    (("module \"" ++ info.name ++ "\" \x7b") :: (s.indent ++ "source = \"" ++ info.source ++ ['"'])
      :: [] :: names.map (fun name =>
        s.lineStart names name ++ (literal (escape (value name)) ++ comment name))
      ++ [['\x7d']])

/-- Assignments of ordered names make an example. -/
theorem isExample_moduleBlock (s : UsageStyle) (info : ModuleMeta) {names : List Text}
    (hne : names ≠ []) (hordered : names.Pairwise Precedes)
    (values conditions : List (Text × Text)) :
    s.IsExample info names (fun name => (values.lookup name).getD (s.placeholder name))
      (fun name => remark (conditions.lookup name))
      (s.moduleBlock info (s.assignments names values conditions)) where
  ordered := hordered
  longest := isGreatest_widest hne
  column := by
    intro name hname
    refine ⟨s.indent ++ padRight (widest names) name, rfl, ?_, ?_⟩
    · exact (List.prefix_append_right_inj _).mpr (List.prefix_append _ _)
    · have hlength := s.length_lineStart hname
      rw [lineStart, List.length_append] at hlength
      exact Nat.add_right_cancel hlength
  lines := by
    have hlines : s.assignments names values conditions ≠ [] := fun hnil =>
      hne (List.map_eq_nil_iff.mp hnil)
    rw [moduleBlock, if_neg hlines, assignments]
    simp only [assignment_eq_remark, List.cons_append, List.nil_append]

theorem mem_shownNames {g : UsageGroup} {required trigger : List Declaration} {name : Text} :
    name ∈ shownNames g required trigger ↔
      name ∈ namesOf required ∨ name ∈ namesOf trigger ∨ name ∈ g.needed ∨ name = g.trigger := by
  rw [shownNames, mem_nameSet]
  simp only [List.mem_append, List.mem_singleton, or_assoc]

/-- The condition of a group stands behind the names that it needs. -/
theorem remark_lookup_needed (g : UsageGroup) (name : Text) :
    remark ((g.needed.map (·, g.condition)).lookup name)
      = if name ∈ g.needed then "  # Required when " ++ (g.trigger ++ " = \"" ++ g.value ++ ['"'])
        else [] := by
  rw [lookup_map_const]
  by_cases hname : name ∈ g.needed
  · rw [if_pos (List.contains_iff_mem.mpr hname), if_pos hname]
    rfl
  · rw [if_neg fun h => hname (List.contains_iff_mem.mp h), if_neg hname]
    rfl

/-- The trigger of a group is given its value. -/
theorem lookup_trigger (s : UsageStyle) (g : UsageGroup) (name : Text) :
    ([(g.trigger, g.value)].lookup name).getD (s.placeholder name)
      = if name = g.trigger then g.value else s.placeholder name := by
  by_cases hname : name = g.trigger
  · rw [if_pos hname, hname, List.lookup_cons_self, Option.getD_some]
  · rw [if_neg hname, List.lookup_cons, beq_false_of_ne hname]
    rfl

/-- The example of a group depends on the sets of names alone. -/
theorem conditional_congr (s : UsageStyle) (g : UsageGroup) (info : ModuleMeta)
    {required required' trigger trigger' : List Declaration} {needed : List Text}
    (hrequired : ∀ name, name ∈ namesOf required' ↔ name ∈ namesOf required)
    (htrigger : ∀ name, name ∈ namesOf trigger' ↔ name ∈ namesOf trigger)
    (hneeded : ∀ name, name ∈ needed ↔ name ∈ g.needed) :
    s.conditional { g with needed := needed } required' trigger' info
      = s.conditional g required trigger info := by
  have hshown : shownNames { g with needed := needed } required' trigger'
      = shownNames g required trigger := by
    refine nameSet_congr fun name => ?_
    simp only [List.mem_append, hrequired, htrigger, hneeded]
  have hcondition : ∀ name, (needed.map (·, g.condition)).lookup name
      = (g.needed.map (·, g.condition)).lookup name := by
    intro name
    rw [lookup_map_const, lookup_map_const]
    simp only [List.contains_iff_mem, hneeded]
  rw [conditional, conditional, hshown]
  refine congrArg (s.moduleBlock info) (List.map_congr_left fun name _ => ?_)
  exact congrArg (s.assignment _ name _) (hcondition name)

/-- The example of a group, for all lists of required and trigger variables.  It shows the required
and the trigger variables, the variables that the group needs and its trigger, each once and in the
order by code point.  The line of the trigger gives it the value of the group and every other line a
placeholder, escaped, and the comment stands on exactly the lines of the variables that the group
needs.  The text depends on the sets of names alone, and every name of the basic example is among
its names. -/
theorem conditional_isExample (s : UsageStyle) (g : UsageGroup)
    (required trigger : List Declaration) (info : ModuleMeta) :
    let names := shownNames g required trigger
    (∀ name, name ∈ names ↔
      name ∈ namesOf required ∨ name ∈ namesOf trigger ∨ name ∈ g.needed ∨ name = g.trigger) ∧
    s.IsExample info names (fun name => if name = g.trigger then g.value else s.placeholder name)
      (fun name => if name ∈ g.needed then
        "  # Required when " ++ (g.trigger ++ " = \"" ++ g.value ++ ['"']) else [])
      (s.conditional g required trigger info) ∧
    (∀ required' trigger' needed,
      (∀ name, name ∈ namesOf required' ↔ name ∈ namesOf required) →
      (∀ name, name ∈ namesOf trigger' ↔ name ∈ namesOf trigger) →
      (∀ name, name ∈ needed ↔ name ∈ g.needed) →
      s.conditional { g with needed := needed } required' trigger' info
        = s.conditional g required trigger info) ∧
    ∃ basicNames, basicNames ⊆ names ∧
      (∀ name, name ∈ basicNames ↔ name ∈ namesOf required ∨ name ∈ namesOf trigger) ∧
      if basicNames = [] then s.basic required trigger info = []
      else s.IsExample info basicNames s.placeholder (fun _ => [])
        (s.basic required trigger info) := by
  intro names
  have hne : names ≠ [] := List.ne_nil_of_mem (mem_shownNames.mpr (.inr (.inr (.inr rfl))))
  -- the trigger itself is shown, so the block is not empty
  have hexample := s.isExample_moduleBlock info hne (pairwise_nameSet _) [(g.trigger, g.value)]
    (g.needed.map (·, g.condition))
  simp only [lookup_trigger, remark_lookup_needed] at hexample
  have hbasic : ∀ name, name ∈ nameSet (namesOf required ++ namesOf trigger) ↔
      name ∈ namesOf required ∨ name ∈ namesOf trigger := fun name => by
    rw [mem_nameSet, List.mem_append]
  refine ⟨fun _ => mem_shownNames, hexample, ?_, nameSet (namesOf required ++ namesOf trigger), ?_,
    hbasic, ?_⟩
  · intro required' trigger' needed hrequired htrigger hneeded
    exact s.conditional_congr g info hrequired htrigger hneeded
  · intro name hname
    exact mem_shownNames.mpr (((hbasic name).mp hname).imp_right .inl)
  · unfold basic
    split
    · next hnil => exact if_pos hnil
    · next hnil =>
        rw [if_neg hnil]
        exact s.isExample_moduleBlock info hnil (pairwise_nameSet _) [] []

/-- A group that needs its own trigger and a variable that is required anyway; the names are given
in other orders and one of them twice, and the text stays. -/
theorem conditional_isExample_mixed :
    let input (name : Text) : Declaration := { kind := "variable", name := name, rawBlock := [] }
    let g : UsageGroup := ⟨"mode", "a\"b", "A", ["size_max", "mode"]⟩
    let info : ModuleMeta := ⟨"shop", "./shop", "v1.0.0"⟩
    let text : Text := join ['\n']
      [ "module \"shop\" \x7b", "  source = \"./shop\"", [], "  id       = \"your-id\"",
        "  mode     = \"a\\\"b\"  # Required when mode = \"a\"b\"",
        "  size_max = \"your-size-max\"  # Required when mode = \"a\"b\"", "\x7d" ]
    conditional {} g [input "size_max", input "id"] [input "mode"] info = text ∧
      conditional {} { g with needed := ["mode", "size_max"] }
        [input "id", input "size_max", input "id"] [input "mode"] info = text := by
  intro input g info text
  obtain ⟨-, hexample, hsame, -⟩ := conditional_isExample {} g [input "size_max", input "id"]
    [input "mode"] info
  have hnames : shownNames g [input "size_max", input "id"] [input "mode"]
      = (["id", "mode", "size_max"] : List Text) := by cbv
  have htext : conditional {} g [input "size_max", input "id"] [input "mode"] info = text := by
    rw [hexample.lines, hnames]
    exact congrArg (join ['\n']) (by decide)
  refine ⟨htext, (hsame _ _ _ (fun name => ?_) (fun name => Iff.rfl) fun name => ?_).trans htext⟩
  · simp only [namesOf, input, List.map_cons, List.map_nil, List.mem_cons, List.not_mem_nil]
    tauto
  · simp only [g, List.mem_cons, List.not_mem_nil]
    tauto

end UsageStyle

end ModuleDocs
