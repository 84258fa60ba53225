import ModuleDocs.Proofs.Describe.KeptGroups
import ModuleDocs.Proofs.Describe.ModuleGroups

/-! # Reading reaches a normal form

    Groups and descriptions arrive as loosely written values and are brought
    to one form: texts are trimmed, blank ones are left out, a label stands in
    for a missing one, and a variable is named once.  What is read from any
    value has this form.  Written out field by field and read again, what has
    it comes back as it is, and nothing is logged; so the form is reached in
    one reading, and what comes back unchanged are exactly the values in it. -/

namespace ModuleDocs

open Text

theorem mem_trimAll {name : Text} {texts : List Text} :
    name ∈ trimAll texts ↔ name ≠ [] ∧ name ∈ texts.map trim := by
  rw [trimAll, List.mem_filter, decide_eq_true_iff, and_comm]

theorem trimmed_of_mem_trimAll {name : Text} {texts : List Text} (h : name ∈ trimAll texts) :
    name ≠ [] ∧ trim name = name := by
  obtain ⟨hne, hname⟩ := mem_trimAll.mp h
  obtain ⟨text, -, rfl⟩ := List.mem_map.mp hname
  exact ⟨hne, trim_trim text⟩

/-- A condition on a trimmed name has no white space around it. -/
theorem Condition.trim_equals {name : Text} (hne : name ≠ []) (htrimmed : trim name = name)
    (value : Text) : trim (equals name value) = equals name value := by
  refine trim_eq_self ?_ ?_
  · intro c hc
    have hhead : c ∈ name.head? := by
      obtain ⟨d, name, rfl⟩ := List.exists_cons_of_ne_nil hne
      exact hc
    exact head_of_trimmed htrimmed c hhead
  · intro c hc
    have hlast : (equals name value).getLast? = some '"' := List.getLast?_concat
    obtain rfl := Option.some.inj (hlast.symm.trans hc)
    decide

namespace UsageGroup

/-- A group in its final form. -/
structure IsNormal (g : UsageGroup) : Prop where
  trigger : g.trigger ≠ [] ∧ trim g.trigger = g.trigger
  label : g.label ≠ [] ∧ trim g.label = g.label
  needed : ∀ name ∈ g.needed, name ≠ [] ∧ trim name = name
  nodup : g.needed.Nodup

/-- The names given by texts: every text that is not blank gives one, without the white space
around it, and the names stand in the order of their first occurrence. -/
structure AreNamesOf (texts names : List Text) : Prop where
  mem : ∀ name, name ∈ names ↔ name ≠ [] ∧ name ∈ texts.map trim
  order : names.Pairwise fun name other =>
    (texts.map trim).idxOf name < (texts.map trim).idxOf other

/-- The fields of a group. -/
def toJson (g : UsageGroup) : Json :=
  .obj [("trigger", .str g.trigger), ("value", .str g.value), ("label", .str g.label),
    ("variables", .arr (g.needed.map .str))]

variable {g : UsageGroup} {trigger value label : Text} {texts : List Text}

/-! ## Groups -/

/-- The kept texts, each once, are the names that the texts give. -/
theorem areNamesOf_eraseDups (texts : List Text) : AreNamesOf texts (trimAll texts).eraseDups where
  mem name := List.mem_eraseDups.trans mem_trimAll
  order := by
    rw [trimAll, eraseDups_filter]
    exact (pairwise_idxOf_eraseDups (texts.map trim)).filter _

/-- A label, or the condition in its place, is trimmed and not blank. -/
theorem trimmed_labelOr (htrigger : trigger ≠ [] ∧ trim trigger = trigger) (label value : Text) :
    labelOr label trigger value ≠ [] ∧
      trim (labelOr label trigger value) = labelOr label trigger value := by
  rw [labelOr]
  split
  · exact ⟨List.append_ne_nil_of_right_ne_nil _ (List.cons_ne_nil _ _),
      Condition.trim_equals htrigger.1 htrigger.2 value⟩
  · next hne => exact ⟨hne, trim_trim label⟩

/-- The group of texts has the final form, and its variables are the names that the texts give. -/
theorem isNormal_of_ofTexts? (h : ofTexts? trigger value label texts = some g) :
    g.IsNormal ∧ AreNamesOf texts g.needed := by
  change (if trim trigger = [] then none else some (UsageGroup.mk (trim trigger) value
    (labelOr label (trim trigger) value) (trimAll texts).eraseDups)) = some g at h
  split at h
  · cases h
  · next hne =>
      obtain rfl := Option.some.inj h
      have htrigger : trim trigger ≠ [] ∧ trim (trim trigger) = trim trigger :=
        ⟨hne, trim_trim trigger⟩
      refine ⟨⟨htrigger, trimmed_labelOr htrigger label value, ?_, nodup_eraseDups _⟩,
        areNamesOf_eraseDups texts⟩
      exact fun name hname => trimmed_of_mem_trimAll (List.mem_eraseDups.mp hname)

/-- The texts of a group in its final form give it back. -/
theorem IsNormal.ofTexts?_eq (h : g.IsNormal) :
    ofTexts? g.trigger g.value g.label g.needed = some g := by
  have hlabel : labelOr g.label g.trigger g.value = g.label := by
    rw [labelOr, h.label.2, if_neg h.label.1]
  rw [ofTexts?_of_trimmed h.trigger h.needed h.nodup, hlabel]

/-- What is read as a group has the final form, and its variables are the names that the texts in the
field for them give. -/
theorem isNormal_of_ofJson {v : Json} (h : ofJson v = .ok g) :
    g.IsNormal ∧ ∃ fields texts, v = .obj fields ∧
      ((Json.field? "variables" fields).getD .null).asTexts = .ok texts ∧
      AreNamesOf texts g.needed := by
  cases v with
  | obj fields =>
      obtain ⟨texts, key, v, htexts, -, hg⟩ := ofFields_eq_ok_iff.mp h
      obtain ⟨hnormal, hnames⟩ := isNormal_of_ofTexts? hg
      exact ⟨hnormal, fields, texts, rfl, htexts, hnames⟩
  | _ => cases h

/-- A group in its final form is read back from its fields. -/
theorem IsNormal.ofJson_toJson (h : g.IsNormal) : ofJson g.toJson = .ok g := by
  rw [toJson, ofJson, ofFields_eq_ok_iff]
  -- nothing is recovered, since no condition is given
  exact ⟨g.needed, "trigger", .str g.trigger, Heuristic.asTexts_map_str g.needed, rfl,
    h.ofTexts?_eq⟩

/-- Exactly the groups in their final form are read back from their fields. -/
theorem ofJson_toJson_iff : ofJson g.toJson = .ok g ↔ g.IsNormal :=
  ⟨fun h => (isNormal_of_ofJson h).1, IsNormal.ofJson_toJson⟩

theorem not_spoils_toJson (g : UsageGroup) : ¬ Spoils g.toJson :=
  not_spoils_of_asTexts (Heuristic.asTexts_map_str g.needed)

end UsageGroup

/-! ## Descriptions -/

namespace Description

/-- A description in its final form. -/
structure IsNormal (d : Description) : Prop where
  summary : trim d.summary = d.summary
  features : ∀ feature ∈ d.features, feature ≠ [] ∧ trim feature = feature
  groups : ∀ g ∈ d.groups, g.IsNormal

/-- The fields of a description. -/
def toJson (d : Description) : Json :=
  .obj [("description", .str d.summary), ("features", .arr (d.features.map .str)),
    ("conditional_usage", .arr (d.groups.map UsageGroup.toJson))]

variable {d : Description}

/-- The groups that are read have their final form. -/
theorem isNormal_of_mem_groupsField {v : Json} {groups : List UsageGroup}
    (h : (groupsField v).value = .ok groups) : ∀ g ∈ groups, g.IsNormal := by
  cases v with
  | arr items =>
      -- there are groups, so no item ended the reading, and each was read on its own
      have hspoils : ∀ item ∈ items, ¬ UsageGroup.Spoils item := by
        intro item hitem hspoils
        obtain ⟨kind, hkind⟩ := (readGroups_eq_error_iff items 0).mpr ⟨item, hitem, hspoils⟩
        rw [groupsField, hkind] at h
        cases h
      rw [groupsField, readGroups_eq hspoils] at h
      obtain rfl := Except.ok.inj h
      intro g hg
      obtain ⟨item, -, hown⟩ := List.mem_filterMap.mp hg
      exact (UsageGroup.isNormal_of_ofJson (UsageGroup.own?_eq_some_iff.mp hown)).1
  | _ =>
      obtain rfl := Except.ok.inj h
      exact List.forall_mem_nil _

/-- What is read as a description has the final form. -/
theorem isNormal_of_ofJson {v : Json} (h : (ofJson v).value = .ok d) : d.IsNormal := by
  cases v with
  | obj fields =>
      rw [ofJson, ofFields] at h
      split at h
      · cases h
      · rw [Logged.value_map, Logged.value_map] at h
        cases hgroups : (groupsField
            (((UsageGroup.firstField? ["conditional_usage", "conditionalUsage"] fields).map
              (·.2)).getD .null)).value with
        | ok groups =>
            rw [hgroups] at h
            obtain rfl := Except.ok.inj h
            exact ⟨trim_trim _, fun _ => trimmed_of_mem_trimAll, isNormal_of_mem_groupsField hgroups⟩
        | error kind =>
            rw [hgroups] at h
            cases h
  | _ => cases h

/-- Groups in their final form are all kept. -/
theorem kept_map_toJson {groups : List UsageGroup} (h : ∀ g ∈ groups, g.IsNormal) :
    kept (groups.map UsageGroup.toJson) = groups := by
  rw [kept, List.filterMap_map]
  refine (List.filterMap_congr fun g hg => ?_).trans List.filterMap_some
  exact UsageGroup.own?_eq_some_iff.mpr (h g hg).ofJson_toJson

theorem droppings_eq_nil {items : List Json} (h : ∀ item ∈ items, UsageGroup.own? item ≠ none)
    (index : Nat) : droppings index items = [] := by
  rw [droppings, List.filter_eq_nil_iff.mpr, List.map_nil]
  rintro ⟨item, i⟩ hpart hnone
  exact h item (List.fst_mem_of_mem_zipIdx hpart) (Option.isNone_iff_eq_none.mp hnone)

/-- A description in its final form is read back from its fields, and nothing is logged. -/
theorem IsNormal.ofJson_toJson (h : d.IsNormal) : ofJson d.toJson = pure (.ok d) := by
  have hspoils : ∀ item ∈ d.groups.map UsageGroup.toJson, ¬ UsageGroup.Spoils item :=
    List.forall_mem_map.mpr fun g _ => g.not_spoils_toJson
  have hfeatures : featureTexts [("description", .str d.summary),
      ("features", .arr (d.features.map .str)),
      ("conditional_usage", .arr (d.groups.map UsageGroup.toJson))] = .ok d.features :=
    Heuristic.asTexts_map_str d.features
  have howned : ∀ item ∈ d.groups.map UsageGroup.toJson, UsageGroup.own? item ≠ none := by
    refine List.forall_mem_map.mpr fun g hg hnone => ?_
    rw [UsageGroup.own?_eq_some_iff.mpr (h.groups g hg).ofJson_toJson] at hnone
    cases hnone
  rw [toJson, ofJson_of_items rfl hspoils, hfeatures]
  dsimp only
  rw [kept_map_toJson h.groups, droppings_eq_nil howned, ofTexts, trimAll_eq_self h.features]
  have hsummary : trim (summaryText [("description", .str d.summary),
      ("features", .arr (d.features.map .str)),
      ("conditional_usage", .arr (d.groups.map UsageGroup.toJson))]) = d.summary := h.summary
  rw [hsummary]
  rfl

/-- Exactly the descriptions in their final form are read back from their fields. -/
theorem ofJson_toJson_iff : ofJson d.toJson = pure (.ok d) ↔ d.IsNormal :=
  ⟨fun h => isNormal_of_ofJson (congrArg Logged.value h), IsNormal.ofJson_toJson⟩

/-- What is read has its final form: of a group the trigger, the label and the names are trimmed and
not blank, no name stands twice, and the names stand in the order in which the value gives them; of
a description the text and the features are trimmed, no feature is blank, and all groups have their
final form.  Reading it again from its own fields gives it back, and for a description nothing is
logged then. -/
theorem reading_reaches_normal_form :
    (∀ v g, UsageGroup.ofJson v = .ok g →
      g.IsNormal ∧
      (∃ fields texts, v = .obj fields ∧
        ((Json.field? "variables" fields).getD .null).asTexts = .ok texts ∧
        UsageGroup.AreNamesOf texts g.needed) ∧
      UsageGroup.ofJson g.toJson = .ok g) ∧
    ∀ v d, (ofJson v).value = .ok d → d.IsNormal ∧ ofJson d.toJson = pure (.ok d) := by
  constructor
  · intro v g h
    obtain ⟨hnormal, hnames⟩ := UsageGroup.isNormal_of_ofJson h
    exact ⟨hnormal, hnames, hnormal.ofJson_toJson⟩
  · intro v d h
    have hnormal := isNormal_of_ofJson h
    exact ⟨hnormal, hnormal.ofJson_toJson⟩

/-- A group with a blank label and repeated names, beside an item that is dropped. -/
theorem reading_reaches_normal_form_loose :
    let item : Json := .obj [("triggerVar", .str " mode "), ("value", .bool true),
      ("name", .str " "), ("variables", .arr [.str " b", .str "a", .null, .str "b"])]
    let loose : Json := .obj [("description", .str " About m\n"), ("features", .str "Fast "),
      ("conditionalUsage", .arr [item, .null])]
    let g : UsageGroup := ⟨"mode", "true", "mode = \"true\"", ["b", "a"]⟩
    let d : Description := ⟨"About m", ["Fast"], [g]⟩
    (UsageGroup.ofJson item = .ok g ∧ UsageGroup.ofJson g.toJson = .ok g) ∧
      (ofJson loose).value = .ok d ∧ (ofJson loose).log ≠ [] ∧ ofJson d.toJson = pure (.ok d) := by
  intro item loose g d
  have hitem : UsageGroup.ofJson item = .ok g := rfl
  have hloose : (ofJson loose).value = .ok d := rfl
  exact ⟨⟨hitem, (reading_reaches_normal_form.1 item g hitem).2.2⟩, hloose, List.cons_ne_nil _ _,
    (reading_reaches_normal_form.2 loose d hloose).2⟩

end Description

end ModuleDocs
