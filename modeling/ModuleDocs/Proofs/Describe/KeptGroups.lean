import ModuleDocs.Proofs.Describe.ReplyErrors
import ModuleDocs.Proofs.Log

/-! # Groups are kept one by one

    The items of the field for the usage groups are read one after another,
    and an item that is no group costs a warning with its index.  Unless an
    item ends the reading of all, each is read as it would be on its own: what
    it gives and what is logged about it depend on the item and its index,
    and on nothing around it. -/

namespace ModuleDocs

open Text

namespace UsageGroup

/-- The group that an item is read as on its own. -/
def own? (item : Json) : Option UsageGroup := (ofJson item).toOption

/-- An item has a group of its own when it is read as one. -/
theorem own?_eq_some_iff {item : Json} {g : UsageGroup} :
    own? item = some g ↔ ofJson item = .ok g := by
  rw [own?]
  cases ofJson item <;> simp [Except.toOption]

/-- One thing is wrong with an item that is dropped. -/
theorem length_issues {item : Json} {issues : List Issue}
    (h : ofJson item = .error (.invalid issues)) : issues.length = 1 := by
  cases item with
  | obj fields =>
      rw [ofJson, ofFields] at h
      split at h
      · cases h
      · split at h
        · cases h
          rfl
        · split at h
          · cases h
          · cases h
            rfl
  | _ =>
      cases h
      rfl

end UsageGroup

namespace Description

/-- The groups of items that are read each on its own. -/
def kept (items : List Json) : List UsageGroup := items.filterMap UsageGroup.own?

/-- The warning about the item of an index. -/
def dropping (index : Nat) : Entry where
  level := .warning
  text := "Dropping malformed usage group " ++ ofNat index ++ ": 1 error(s)"

/-- The warnings about the items that are no groups, when the first has the given index. -/
def droppings (index : Nat) (items : List Json) : List Entry :=
  ((items.zipIdx index).filter fun part => (UsageGroup.own? part.1).isNone).map fun part =>
    dropping part.2

/-- The field for the usage groups: of its two names the first one that is given counts. -/
def usage? (fields : List (Text × Json)) : Option Json :=
  (Json.field? "conditional_usage" fields).or (Json.field? "conditionalUsage" fields)

/-- The texts of the features. -/
def featureTexts (fields : List (Text × Json)) : Except Text (List Text) :=
  ((Json.field? "features" fields).getD .null).asTexts

/-- The text of the description. -/
def summaryText (fields : List (Text × Json)) : Text :=
  ((Json.field? "description" fields).getD .null).asText

/-! ## What the items give -/

theorem kept_append_cons (before after : List Json) (item : Json) :
    kept (before ++ item :: after)
      = kept before ++ ((UsageGroup.own? item).toList ++ kept after) := by
  rw [kept, List.filterMap_append, List.filterMap_cons]
  cases UsageGroup.own? item <;> rfl

/-- The items before and after an item are warned about as they are without it. -/
theorem droppings_append_cons (index : Nat) (before after : List Json) (item : Json) :
    droppings index (before ++ item :: after)
      = droppings index before ++
          (droppings (index + before.length) [item] ++
            droppings (index + before.length + 1) after) := by
  have hcons : item :: after = [item] ++ after := rfl
  rw [hcons]
  simp only [droppings, List.zipIdx_append, List.filter_append, List.map_append,
    List.length_singleton]

theorem droppings_singleton (index : Nat) (item : Json) :
    droppings index [item] = if UsageGroup.own? item = none then [dropping index] else [] := by
  rw [droppings, List.zipIdx_singleton, List.filter_singleton]
  cases UsageGroup.own? item <;> rfl

/-- When no item ends the reading, each is read on its own, and warned about when it is no group. -/
theorem readGroups_eq {items : List Json} (h : ∀ item ∈ items, ¬ UsageGroup.Spoils item)
    (index : Nat) : readGroups index items = ⟨.ok (kept items), droppings index items⟩ := by
  -- the index only numbers the warnings, so it stays open
  induction items generalizing index with
  | nil => rfl
  | cons item items ih =>
      obtain ⟨hitem, hitems⟩ := List.forall_mem_cons.mp h
      have hkept : kept (item :: items) = (UsageGroup.own? item).toList ++ kept items :=
        kept_append_cons [] items item
      have hdroppings : droppings index (item :: items)
          = droppings index [item] ++ droppings (index + 1) items :=
        droppings_append_cons index [] items item
      rw [readGroups, ih hitems, hkept, hdroppings]
      cases hread : UsageGroup.ofJson item with
      | ok g =>
          have hown : UsageGroup.own? item = some g := congrArg Except.toOption hread
          rw [droppings_singleton, hown]
          exact Logged.ext_of rfl (List.append_nil _)
      | error e =>
          have hown : UsageGroup.own? item = none := congrArg Except.toOption hread
          rw [droppings_singleton, hown]
          cases e with
          | invalid issues =>
              have hone : (": 1 error(s)" : Text) = ": " ++ (ofNat 1 ++ " error(s)") := by decide
              have hdropping : dropping index = ⟨.warning, "Dropping malformed usage group " ++
                  ofNat index ++ ": " ++ ofNat issues.length ++ " error(s)"⟩ := by
                rw [UsageGroup.length_issues hread, dropping, hone]
                simp only [List.append_assoc]
              rw [hdropping]
              rfl
          | notIterable kind =>
              exact absurd ((UsageGroup.ofJson_notIterable_iff item).mp ⟨kind, hread⟩) hitem

/-- A description is read with the groups of its items, unless the features have no items. -/
theorem ofJson_of_items {fields : List (Text × Json)} {items : List Json}
    (husage : usage? fields = some (.arr items))
    (hitems : ∀ item ∈ items, ¬ UsageGroup.Spoils item) :
    ofJson (.obj fields)
      = match featureTexts fields with
        | .error kind => pure (.error (.notIterable kind))
        | .ok features =>
          ⟨.ok (ofTexts (summaryText fields) features (kept items)), droppings 0 items⟩ := by
  rw [ofJson, ofFields, ← featureTexts]
  cases featureTexts fields with
  | error kind => rfl
  | ok features =>
      dsimp only
      rw [UsageGroup.map_firstField?, ← usage?, husage, Option.getD_some, groupsField,
        readGroups_eq hitems]
      exact Logged.ext_of rfl ((Logged.log_map _ _).trans (Logged.log_map _ _))

/-- Of a list in which no item ends the reading, exactly the items are kept that are groups on their
own, as they are on their own and in their order, and each other one is warned about by its index.
Only a number or a truth value for the features keeps the object from being read.  So when an item
is replaced, the description, the features and what comes from the other items stay: the groups and
the log change in the place of the item. -/
theorem ofJson_keeps_apart :
    (∀ fields items, usage? fields = some (.arr items) →
      (∀ item ∈ items, ¬ UsageGroup.Spoils item) →
      ofJson (.obj fields)
        = match featureTexts fields with
          | .error kind => pure (.error (.notIterable kind))
          | .ok features =>
            ⟨.ok (ofTexts (summaryText fields) features (kept items)), droppings 0 items⟩) ∧
    ∀ fields fields' before item other after,
      usage? fields = some (.arr (before ++ item :: after)) →
      usage? fields' = some (.arr (before ++ other :: after)) →
      (∀ key ∈ (["description", "features"] : List Text),
        Json.field? key fields' = Json.field? key fields) →
      (∀ i ∈ item :: other :: (before ++ after), ¬ UsageGroup.Spoils i) →
      (∀ e, (ofJson (.obj fields)).value = .error e → ofJson (.obj fields') = pure (.error e)) ∧
      ∀ d, (ofJson (.obj fields)).value = .ok d →
        ofJson (.obj fields) =
          ⟨.ok { d with groups := kept before ++ ((UsageGroup.own? item).toList ++ kept after) },
            droppings 0 before ++
              (droppings before.length [item] ++ droppings (before.length + 1) after)⟩ ∧
        ofJson (.obj fields') =
          ⟨.ok { d with groups := kept before ++ ((UsageGroup.own? other).toList ++ kept after) },
            droppings 0 before ++
              (droppings before.length [other] ++ droppings (before.length + 1) after)⟩ := by
  refine ⟨fun fields items => ofJson_of_items, ?_⟩
  intro fields fields' before item other after husage husage' hsame hspoils
  have hitems : ∀ i ∈ before ++ item :: after, ¬ UsageGroup.Spoils i := fun i hi =>
    hspoils i (by simp only [List.mem_append, List.mem_cons] at hi ⊢; tauto)
  have hitems' : ∀ i ∈ before ++ other :: after, ¬ UsageGroup.Spoils i := fun i hi =>
    hspoils i (by simp only [List.mem_append, List.mem_cons] at hi ⊢; tauto)
  have hsummary : summaryText fields' = summaryText fields := by
    rw [summaryText, hsame "description" (by decide), summaryText]
  have hfeatures : featureTexts fields' = featureTexts fields := by
    rw [featureTexts, hsame "features" (by decide), featureTexts]
  -- both are read item by item, and only one item is not the same
  rw [ofJson_of_items husage hitems, ofJson_of_items husage' hitems', hsummary, hfeatures,
    kept_append_cons, kept_append_cons, droppings_append_cons, droppings_append_cons,
    Nat.zero_add]
  cases featureTexts fields with
  | error kind =>
      constructor
      · rintro e h
        cases h
        rfl
      · rintro d h
        exact nomatch h
  | ok features =>
      constructor
      · rintro e h
        exact nomatch h
      · rintro d h
        obtain rfl := Except.ok.inj h
        exact ⟨rfl, rfl⟩

/-- A null between two groups, and a group without a trigger in its place. -/
theorem ofJson_keeps_apart_null :
    let group (trigger : Text) : Json := .obj [("trigger", .str trigger), ("variables", .str "v")]
    let untriggered : Json := .obj [("variables", .arr [.null])]
    let fields (item : Json) : List (Text × Json) :=
      [("description", .str "About m"), ("conditionalUsage", .arr [group "a", item, group "b"])]
    let read (trigger : Text) : UsageGroup := ⟨trigger, [], trigger ++ " = \"\"", ["v"]⟩
    let expected : Logged (Except GroupError Description) :=
      ⟨.ok ⟨"About m", [], [read "a", read "b"]⟩,
        [⟨.warning, "Dropping malformed usage group 1: 1 error(s)"⟩]⟩
    usage? (fields .null) = some (.arr ([group "a"] ++ .null :: [group "b"])) ∧
      ofJson (.obj (fields .null)) = expected ∧ ofJson (.obj (fields untriggered)) = expected := by
  intro group untriggered fields read expected
  have hgroup : ∀ trigger, ¬ UsageGroup.Spoils (group trigger) := fun trigger =>
    UsageGroup.not_spoils_of_asTexts (rfl : _ = Except.ok [("v" : Text)])
  have huntriggered : ¬ UsageGroup.Spoils untriggered :=
    UsageGroup.not_spoils_of_asTexts (rfl : _ = Except.ok [([] : Text)])
  have hnull : ¬ UsageGroup.Spoils .null := by
    rintro ⟨_, _, h, -⟩
    exact nomatch h
  have hspoils : ∀ i ∈ [.null, untriggered, group "a", group "b"], ¬ UsageGroup.Spoils i := by
    simp only [List.forall_mem_cons]
    exact ⟨hnull, huntriggered, hgroup "a", hgroup "b", nofun⟩
  have hdescription : ofJson (.obj (fields .null)) = expected := by
    rw [ofJson_keeps_apart.1 (fields .null) [group "a", .null, group "b"] rfl
      (by simpa [or_imp, forall_and] using ⟨hgroup "a", hnull, hgroup "b"⟩)]
    rfl
  have hsame : ∀ key ∈ (["description", "features"] : List Text),
      Json.field? key (fields untriggered) = Json.field? key (fields .null) :=
    List.forall_mem_cons.mpr ⟨rfl, List.forall_mem_cons.mpr ⟨rfl, nofun⟩⟩
  obtain ⟨-, hapart⟩ := ofJson_keeps_apart.2 (fields .null) (fields untriggered) [group "a"] .null
    untriggered [group "b"] rfl rfl hsame hspoils
  obtain ⟨-, hreplaced⟩ :=
    hapart ⟨"About m", [], [read "a", read "b"]⟩ (congrArg Logged.value hdescription)
  exact ⟨rfl, hdescription, hreplaced.trans (Logged.ext_of rfl (by decide +kernel))⟩

end Description

end ModuleDocs
