import ModuleDocs.Proofs.Describe.Fallback
import ModuleDocs.Proofs.Hcl.HeaderGrammar
import ModuleDocs.Proofs.Module.RepeatedNames

/-! # The usage groups of a module

    A trigger lists values in its condition, and the conditions of other
    variables refer to them.  Each pair of a trigger and a value that it
    lists makes one usage group when some conditional variable refers to the
    value: the group needs exactly the variables that do.

    On the way a group passes the check that all groups pass, which trims
    names, drops blank ones and names none twice.  Names as a module declares
    them come out as they went in: a header gives no empty name, and a
    module whose files are read declares no name twice. -/

namespace ModuleDocs

open Text

/-! ## Names of variables -/

namespace Classified

/-- The names of all variables, by category. -/
def names (c : Classified) : List Text :=
  Category.all.flatMap fun category => namesOf (c.ofCategory category)

/-- Whether all variables have names of their own, none of them empty and none with white space
around it. -/
structure WellNamed (c : Classified) : Prop where
  distinct : c.names.Nodup
  given : ∀ name ∈ c.names, name ≠ []
  trimmed : ∀ name ∈ c.names, trim name = name

theorem mem_names_of_mem {c : Classified} {category : Category} {name : Text}
    (h : name ∈ namesOf (c.ofCategory category)) : name ∈ c.names := by
  refine List.mem_flatMap.mpr ⟨category, ?_, h⟩
  cases category <;> decide

/-- The names of a category stand in all names one after another. -/
theorem WellNamed.nodup {c : Classified} (h : c.WellNamed) (category : Category) :
    (namesOf (c.ofCategory category)).Nodup := by
  refine (List.nodup_flatMap.mp h.distinct).1 category ?_
  cases category <;> decide

/-- Declarations are sorted into the categories without a name being lost or added. -/
theorem mem_names_ofList {ds : List Declaration} {name : Text} :
    name ∈ (ofList ds).names ↔ name ∈ namesOf ds := by
  rw [names, List.mem_flatMap]
  constructor
  · rintro ⟨category, -, hname⟩
    rw [ofCategory_ofList] at hname
    exact (List.filter_sublist.map _).subset hname
  · intro hname
    obtain ⟨d, hd, rfl⟩ := List.mem_map.mp hname
    refine ⟨Category.of d, ?_, ?_⟩
    · cases Category.of d <;> decide
    · rw [ofCategory_ofList]
      exact List.mem_map.mpr ⟨d, List.mem_filter.mpr ⟨hd, decide_eq_true rfl⟩, rfl⟩

/-- Declarations with names of their own keep them when they are sorted into the categories. -/
theorem nodup_names_ofList {ds : List Declaration} (h : (namesOf ds).Nodup) :
    (ofList ds).names.Nodup := by
  rw [names, List.nodup_flatMap]
  constructor
  · intro category _
    rw [ofCategory_ofList]
    exact (List.filter_sublist.map _).nodup h
  · have hdistinct : Category.all.Nodup := by decide
    refine hdistinct.imp fun {category other} hne name hname hother => hne ?_
    simp only [ofCategory_ofList] at hname hother
    -- a name in two categories would be that of one declaration
    obtain ⟨d, hd, rfl⟩ := List.mem_map.mp hname
    obtain ⟨e, he, heq⟩ := List.mem_map.mp hother
    obtain ⟨hd, hcategory⟩ := List.mem_filter.mp hd
    obtain ⟨he, hcategory'⟩ := List.mem_filter.mp he
    obtain rfl := List.inj_on_of_nodup_map h he hd heq
    rw [← of_decide_eq_true hcategory, ← of_decide_eq_true hcategory']

end Classified

theorem Hcl.Header.name_ne_nil {keyword : Text} (hk : IsKeyword keyword) {index skip : Nat}
    {lineStart : Bool} {t : Text} {h : Header}
    (hmem : h ∈ findFrom keyword index lineStart skip t) : h.name ≠ [] := by
  obtain ⟨_, _, _, _, hread, _⟩ := exists_at?_of_mem_findFrom index lineStart hmem
  obtain ⟨front, -, -, -, hfront⟩ := (at?_eq_some_iff hk).mp hread
  exact hfront.named

/-- A declaration has the name of its header. -/
theorem Hcl.name_declarationAt (m : BraceMode) (text keyword : Text) (h : Header) :
    (declarationAt m text keyword h).value.name = h.name := by
  unfold declarationAt
  simp only [Logged.value_bind]
  split <;> rfl

/-- No declaration in files has an empty name. -/
theorem name_ne_nil_of_mem_occurrences {m : Hcl.BraceMode} {files : List (Text × Text)}
    {d : Declaration} (h : d ∈ occurrences m files) : d.name ≠ [] := by
  obtain ⟨file, -, hd⟩ := List.mem_flatMap.mp h
  rw [Hcl.scanVariables, Hcl.scan, Logged.value_mapM] at hd
  obtain ⟨header, hheader, rfl⟩ := List.mem_map.mp hd
  rw [Hcl.name_declarationAt]
  exact Hcl.Header.name_ne_nil (Hcl.isKeyword_of_eq (.inl rfl)) hheader

/-- The variables of a module whose files are read have names of their own, none of them empty. -/
theorem ModuleContext.wellNamed_of_build {m : Hcl.BraceMode} {policy : DuplicatePolicy}
    {info : ModuleMeta} {files : List (Text × Text)} {c : ModuleContext}
    (h : (build m policy info files).value = .ok c)
    (htrimmed : ∀ name ∈ c.classified.names, trim name = name) : c.classified.WellNamed := by
  rw [value_build] at h
  cases hkept : (resolveDuplicates policy (occurrences m (sortFiles files))).value with
  | error e =>
      rw [hkept] at h
      exact nomatch h
  | ok kept =>
      rw [hkept] at h
      obtain rfl := Except.ok.inj h
      refine ⟨Classified.nodup_names_ofList (nodup_of_resolveDuplicates hkept), ?_, htrimmed⟩
      intro name hname
      have hdeclared :=
        (mem_names_of_resolveDuplicates hkept).mp (Classified.mem_names_ofList.mp hname)
      obtain ⟨d, hd, rfl⟩ := List.mem_map.mp hdeclared
      exact name_ne_nil_of_mem_occurrences hd

/-! ## Groups in their final form -/

theorem trimAll_eq_self {texts : List Text} (h : ∀ text ∈ texts, text ≠ [] ∧ trim text = text) :
    trimAll texts = texts := by
  have htrim : texts.map trim = texts :=
    (List.map_congr_left fun text htext => (h text htext).2).trans (List.map_id _)
  rw [trimAll, htrim]
  exact List.filter_eq_self.mpr fun text htext => decide_eq_true (h text htext).1

namespace UsageGroup

/-- A label, or the condition where there is none. -/
def labelOr (label trigger value : Text) : Text :=
  if trim label = [] then Condition.equals trigger value else trim label

/-- Names in their final form come out of the check as they are. -/
theorem ofTexts?_of_trimmed {trigger : Text} (htrigger : trigger ≠ [] ∧ trim trigger = trigger)
    {needed : List Text} (hneeded : ∀ name ∈ needed, name ≠ [] ∧ trim name = name)
    (hnodup : needed.Nodup) (value label : Text) :
    ofTexts? trigger value label needed
      = some ⟨trigger, value, labelOr label trigger value, needed⟩ := by
  unfold ofTexts?
  rw [htrigger.2, trimAll_eq_self hneeded, eraseDups_eq_self hnodup, if_neg htrigger.1]
  rfl

/-- A group that names a trigger and conditional variables of the module names nothing unknown. -/
theorem unknownNames_eq_nil {g : UsageGroup} {c : Classified}
    (htrigger : g.trigger ∈ namesOf c.trigger)
    (hneeded : ∀ name ∈ g.needed, name ∈ namesOf c.conditional) : g.unknownNames c = pure [] := by
  have hnone : (g.needed.filter fun name => !(name ∈ namesOf c.conditional) && name ≠ g.trigger)
      = [] := by
    refine List.filter_eq_nil_iff.mpr fun name hname => ?_
    simp [hneeded name hname]
  rw [unknownNames, unknownTrigger, if_pos htrigger, unknownVariables, hnone]
  rfl

end UsageGroup

/-! ## Pairs -/

namespace Heuristic

/-- The conditional variables that refer to a value of a trigger, in the order of discovery. -/
def referring (c : Classified) (trigger : Declaration) (value : Text) : List Declaration :=
  c.conditional.filter fun d =>
    (Condition.referencedValues d.condition trigger.name).contains value

/-- The pairs of a trigger and a value that it lists, each value once: by trigger in the order of
discovery, then by the place of the value. -/
def listed (c : Classified) : List (Declaration × Text) :=
  c.trigger.flatMap fun trigger =>
    (Condition.listedValues trigger.condition trigger.name).map (trigger, ·)

/-- The listed pairs to which some conditional variable refers. -/
def pairs (c : Classified) : List (Declaration × Text) :=
  (listed c).filter fun pair => referring c pair.1 pair.2 ≠ []

/-- The usage group of a pair. -/
def pairGroup (c : Classified) (pair : Declaration × Text) : UsageGroup where
  trigger := pair.1.name
  value := pair.2
  label := UsageGroup.labelOr (humanize pair.2 ++ [' '] ++ humanize pair.1.name) pair.1.name pair.2
  needed := namesOf (referring c pair.1 pair.2)

variable {c : Classified}

/-- A pair makes a group exactly if its trigger lists its value and a conditional variable refers
to it. -/
theorem mem_pairs {trigger : Declaration} {value : Text} :
    (trigger, value) ∈ pairs c ↔
      (trigger ∈ c.trigger ∧ value ∈ Condition.listedValues trigger.condition trigger.name) ∧
        ∃ d ∈ c.conditional, value ∈ Condition.referencedValues d.condition trigger.name := by
  rw [pairs, List.mem_filter, decide_eq_true_iff]
  refine and_congr ?_ ?_
  · rw [listed, List.mem_flatMap]
    constructor
    · rintro ⟨other, hother, hpair⟩
      obtain ⟨value', hvalue, hpair⟩ := List.mem_map.mp hpair
      obtain ⟨rfl, rfl⟩ := Prod.mk.inj hpair
      exact ⟨hother, hvalue⟩
    · rintro ⟨htrigger, hvalue⟩
      exact ⟨trigger, htrigger, List.mem_map.mpr ⟨value, hvalue, rfl⟩⟩
  · rw [referring, ne_eq, List.filter_eq_nil_iff]
    simp

/-- No value of a trigger is listed twice. -/
theorem nodup_listed (h : (namesOf c.trigger).Nodup) :
    ((listed c).map fun pair => (pair.1.name, pair.2)).Nodup := by
  rw [listed, List.map_flatMap, List.nodup_flatMap]
  constructor
  · intro trigger _
    rw [List.map_map]
    exact (nodup_eraseDups _).map fun value value' heq => (Prod.mk.inj heq).2
  · -- pairs of different triggers differ in the name
    refine (List.pairwise_map.mp h).imp fun {trigger other} hne pair hpair hother => hne ?_
    simp only [List.map_map] at hpair hother
    obtain ⟨value, -, rfl⟩ := List.mem_map.mp hpair
    obtain ⟨value', -, heq⟩ := List.mem_map.mp hother
    exact (Prod.mk.inj heq).1.symm

/-! ## Groups of pairs -/

theorem requiredBy_eq (c : Classified) (trigger : Declaration) (value : Text) :
    requiredBy c trigger value = namesOf (referring c trigger value) := rfl

/-- The conditional variables of a well-named module that refer to a value have names of their
own. -/
theorem nodup_referring (h : c.WellNamed) (trigger : Declaration) (value : Text) :
    (namesOf (referring c trigger value)).Nodup :=
  (List.filter_sublist.map _).nodup (h.nodup .conditional)

theorem mem_conditional_of_referring {trigger : Declaration} {value name : Text}
    (h : name ∈ namesOf (referring c trigger value)) : name ∈ namesOf c.conditional :=
  (List.filter_sublist.map _).subset h

/-- A value of a trigger makes the group of the pair, when some variable refers to it. -/
theorem group?_eq (h : c.WellNamed) {trigger : Declaration} (htrigger : trigger ∈ c.trigger)
    (value : Text) :
    group? c trigger value
      = if referring c trigger value ≠ [] then some (pairGroup c (trigger, value)) else none := by
  have hname : trigger.name ∈ c.names :=
    Classified.mem_names_of_mem (List.mem_map.mpr ⟨trigger, htrigger, rfl⟩ :
      trigger.name ∈ namesOf (c.ofCategory .trigger))
  rw [group?, requiredBy_eq]
  cases hreferring : referring c trigger value with
  | nil => rw [if_neg (fun hne => hne rfl)]; rfl
  | cons d ds =>
      rw [if_pos (List.cons_ne_nil d ds)]
      show UsageGroup.ofTexts? _ _ _ (namesOf (d :: ds)) = _
      rw [← hreferring]
      refine UsageGroup.ofTexts?_of_trimmed ⟨h.given _ hname, h.trimmed _ hname⟩ ?_
        (nodup_referring h trigger value) _ _
      intro name hneeded
      have hmem : name ∈ c.names :=
        Classified.mem_names_of_mem (show name ∈ namesOf (c.ofCategory .conditional) from
          mem_conditional_of_referring hneeded)
      exact ⟨h.given _ hmem, h.trimmed _ hmem⟩

/-- The groups of a well-named module are those of its pairs, in their order. -/
theorem groups_eq_map (h : c.WellNamed) : groups c = (pairs c).map (pairGroup c) := by
  -- the pairs are filtered in one list, the describer filters the values of each trigger
  have hpairs : (pairs c).map (pairGroup c) = c.trigger.flatMap fun trigger =>
      (Condition.listedValues trigger.condition trigger.name).filterMap fun value =>
        if referring c trigger value ≠ [] then some (pairGroup c (trigger, value)) else none := by
    rw [pairs, ← List.filterMap_eq_map, List.filterMap_filter, listed, List.filterMap_flatMap]
    simp only [List.filterMap_map]
    refine congrArg (List.flatMap · c.trigger) (funext fun trigger => ?_)
    refine congrArg (List.filterMap · _) (funext fun value => ?_)
    simp
  rw [groups, hpairs]
  refine List.flatMap_congr fun trigger htrigger => ?_
  exact congrArg (List.filterMap · _) (funext (group?_eq h htrigger))

/-- The group of a pair names a trigger and conditional variables of the module. -/
theorem unknownNames_pairGroup {pair : Declaration × Text} (h : pair ∈ pairs c) :
    (pairGroup c pair).unknownNames c = pure [] := by
  obtain ⟨⟨htrigger, -⟩, -⟩ := mem_pairs.mp h
  refine UsageGroup.unknownNames_eq_nil (List.mem_map.mpr ⟨pair.1, htrigger, rfl⟩) ?_
  exact fun name hname => mem_conditional_of_referring hname

/-- A well-named module gets one group for each pair of a trigger and a value that it lists, by
trigger in the order of discovery and then by the place of the value, when some conditional variable
refers to the value.  The group passes its check as it is: it needs exactly the variables that refer
to the value, in the order of discovery and at least one, and names nothing that the module does not
know.  No trigger gets two groups for one value.  Where files are read, all modules are well-named
whose names have no white space around them. -/
theorem groups_of_pairs :
    (∀ c : Classified, c.WellNamed →
      checkedGroups c = .ok (groups c) ∧
      groups c = (pairs c).map (pairGroup c) ∧
      (∀ trigger value, (trigger, value) ∈ pairs c ↔
        (trigger ∈ c.trigger ∧ value ∈ Condition.listedValues trigger.condition trigger.name) ∧
          ∃ d ∈ c.conditional, value ∈ Condition.referencedValues d.condition trigger.name) ∧
      ((groups c).map fun g => (g.trigger, g.value)).Nodup ∧
      ∀ g ∈ groups c, g.needed ≠ [] ∧ g.unknownNames c = pure []) ∧
    ∀ m policy info files c, (ModuleContext.build m policy info files).value = .ok c →
      (∀ name ∈ c.classified.names, trim name = name) → c.classified.WellNamed := by
  refine ⟨fun c h => ⟨checkedGroups_eq c, groups_eq_map h, fun _ _ => mem_pairs, ?_, ?_⟩, ?_⟩
  · rw [groups_eq_map h, List.map_map]
    exact (List.filter_sublist.map _).nodup (nodup_listed (h.nodup .trigger))
  · intro g hg
    rw [groups_eq_map h] at hg
    obtain ⟨pair, hpair, rfl⟩ := List.mem_map.mp hg
    have hreferring := of_decide_eq_true (List.mem_filter.mp hpair).2
    exact ⟨fun hnil => hreferring (List.map_eq_nil_iff.mp hnil), unknownNames_pairGroup hpair⟩
  · exact fun _ _ _ _ _ h htrimmed => ModuleContext.wellNamed_of_build h htrimmed

/-- Two triggers, of which one lists a value that no variable refers to, and a variable that refers
to both; and a file whose variables have names of their own. -/
theorem groups_of_pairs_shop :
    let declared (name : Text) (default : Option Text) (condition : Text) : Declaration :=
      { kind := "variable", name, rawBlock := [], default, validation := some { condition } }
    let shop := Classified.ofList
      [declared "mode" none "contains([\"a\", \"b\", \"c\"], var.mode)",
        declared "size" (some "null") "var.mode != \"b\" || var.size != null",
        declared "zone" none "contains([\"x\"], var.zone)",
        declared "path" (some "null") "var.zone == \"x\" || contains([\"b\", \"a\"], var.mode)"]
    let read := (ModuleContext.build .plain .reject ⟨"m", "./m", "v0"⟩
      [("a.tf", "variable \"x\" \x7b\x7d")]).value
    (shop.WellNamed ∧
      (groups shop).map (fun g => (g.trigger, g.value, g.needed))
        = ([("mode", "a", ["path"]), ("mode", "b", ["size", "path"]), ("zone", "x", ["path"])] :
          List (Text × Text × List Text)) ∧
      ∀ g ∈ groups shop, g.needed ≠ [] ∧ g.unknownNames shop = pure []) ∧
    ∃ c, read = .ok c ∧ c.classified.names = [("x" : Text)] ∧ c.classified.WellNamed := by
  intro declared shop read
  have hshop : shop.WellNamed := ⟨by decide +kernel, by decide +kernel, by decide +kernel⟩
  obtain ⟨-, -, -, -, hknown⟩ := groups_of_pairs.1 shop hshop
  have hnames : read.toOption.map (·.classified.names) = some [("x" : Text)] := by decide +kernel
  refine ⟨⟨hshop, by decide +kernel, hknown⟩, ?_⟩
  cases hread : read with
  | error e =>
      rw [hread] at hnames
      exact nomatch hnames
  | ok c =>
      rw [hread] at hnames
      replace hnames : c.classified.names = [("x" : Text)] := Option.some.inj hnames
      refine ⟨c, rfl, hnames, groups_of_pairs.2 _ _ _ _ c hread ?_⟩
      rw [hnames]
      decide

end Heuristic

end ModuleDocs
