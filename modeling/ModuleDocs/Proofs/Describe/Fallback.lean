import Mathlib
import ModuleDocs.Describe.Describer
import ModuleDocs.Proofs.Describe.ReplyErrors
import ModuleDocs.Proofs.Log
import ModuleDocs.Proofs.Usage.WrittenConditions

/-! # Describing a module with a chat service

    A chat describer asks once.  What it makes of the answer depends on
    whether the answer gives a description: then that is the description, and
    otherwise either the declarations describe the module or the failure is
    reported, under the name of the service when the content is not to blame.

    The declarations never fail to describe a module.  The groups that are
    read off the conditions are checked like groups from anywhere else, and
    the only thing the check could object to is a blank trigger.  A trigger
    gets groups only for the values that its condition lists for it, and the
    condition names the trigger there, so its name is not blank. -/

namespace ModuleDocs

open Text

/-! ## Groups from declarations are valid -/

namespace Condition

/-- A match begins with some part of the text. -/
theorem exists_of_mem_matchesFrom {α : Type} {read : Text → Option (α × Text)} {a : α} {skip : Nat}
    {t : Text} (h : a ∈ matchesFrom read skip t) : ∃ u rest, read u = some (a, rest) := by
  induction t generalizing skip with
  | nil => exact nomatch h
  | cons c t ih =>
      cases skip with
      | succ skip => exact ih h
      | zero =>
          rw [matchesFrom] at h
          cases hread : read (c :: t) with
          | none =>
              rw [hread] at h
              exact ih h
          | some found =>
              obtain ⟨b, rest⟩ := found
              rw [hread] at h
              rcases List.mem_cons.mp h with rfl | h
              · exact ⟨c :: t, rest, hread⟩
              · exact ih h

/-- An identifier is trimmed, and not empty. -/
theorem trim_ne_nil_of_identifier? {t name rest : Text} (h : identifier? t = some (name, rest)) :
    trim name ≠ [] := by
  cases t with
  | nil => cases h
  | cons c t =>
      rw [identifier?] at h
      split at h
      · next hstart =>
          obtain ⟨rfl, -⟩ := Prod.mk.inj (Option.some.inj h)
          have hpart : ∀ d ∈ c :: t.takeWhile isIdentPart, isIdentPart d = true := by
            intro d hd
            rcases List.mem_cons.mp hd with rfl | hd
            · exact isIdentPart_of_isIdentStart hstart
            · exact List.mem_takeWhile_imp hd
          have htrim : trim (c :: t.takeWhile isIdentPart) = c :: t.takeWhile isIdentPart :=
            trim_eq_self (fun d hd => isSpace_of_isIdentPart (hpart d (List.mem_of_mem_head? hd)))
              fun d hd => isSpace_of_isIdentPart (hpart d (List.mem_of_mem_getLast? hd))
          rw [htrim]
          exact List.cons_ne_nil _ _
      · cases h

theorem trim_ne_nil_of_containsCall? {t list name rest : Text}
    (h : containsCall? t = some ((list, name), rest)) : trim name ≠ [] := by
  simp only [containsCall?, Option.bind_eq_bind, Option.bind_eq_some_iff, Option.some.injEq,
    Prod.mk.injEq] at h
  obtain ⟨-, -, -, -, -, -, -, -, -, -, u, -, ⟨_, after⟩, hident, -, -, ⟨-, rfl⟩, -⟩ := h
  exact trim_ne_nil_of_identifier? hident

/-- A variable for which values are listed has a name that is not blank. -/
theorem trim_ne_nil_of_mem_listedValues {condition name value : Text}
    (h : value ∈ listedValues condition name) : trim name ≠ [] := by
  obtain ⟨⟨list, of⟩, hcall, hvalue⟩ := List.mem_flatMap.mp (List.mem_eraseDups.mp h)
  obtain ⟨u, rest, hread⟩ := exists_of_mem_matchesFrom hcall
  by_cases heq : of = name
  · exact heq ▸ trim_ne_nil_of_containsCall? hread
  · dsimp only at hvalue
    rw [if_neg heq] at hvalue
    exact nomatch hvalue

end Condition

namespace Heuristic

/-- The fields that a group is made from. -/
def groupFields (trigger : Declaration) (value : Text) (needed : List Text) : List (Text × Json) :=
  [("trigger", .str trigger.name), ("value", .str value),
   ("label", .str (humanize value ++ [' '] ++ humanize trigger.name)),
   ("variables", .arr (needed.map .str))]

/-- The group of one value of a trigger, read from its fields and checked. -/
def checkedGroup (c : Classified) (trigger : Declaration) (value : Text) :
    Except GroupError (Option UsageGroup) :=
  match requiredBy c trigger value with
  | [] => .ok none
  | needed => some <$> UsageGroup.ofFields (groupFields trigger value needed)

/-- The groups of a module, each checked; the first that is not valid ends the reading. -/
def checkedGroups (c : Classified) : Except GroupError (List UsageGroup) :=
  c.trigger.flatMapM fun trigger =>
    (Condition.listedValues trigger.condition trigger.name).filterMapM (checkedGroup c trigger)

/-- The description of a module, everything in it checked. -/
def checked (c : ModuleContext) : Except GroupError Description := do
  let groups ← checkedGroups c.classified
  let prose ← (Description.ofFields
    [("description", .str (summary c.info.name)),
     ("features", .arr ((features c).map .str))]).value.mapError .notIterable
  pure { prose with groups := groups }

/-- Texts that were put into values come out of them again. -/
theorem map_asText_str (ts : List Text) : (ts.map Json.str).map Json.asText = ts := by
  rw [List.map_map]
  exact List.map_id'' (fun _ => rfl) ts

theorem asTexts_map_str (ts : List Text) : (Json.arr (ts.map .str)).asTexts = .ok ts := by
  rw [Json.asTexts, map_asText_str]

/-- The fields of a group give the group, when there is one. -/
theorem ofFields_groupFields (trigger : Declaration) (value : Text) (needed : List Text)
    (h : trim trigger.name ≠ []) :
    some <$> UsageGroup.ofFields (groupFields trigger value needed)
      = .ok (UsageGroup.ofTexts? trigger.name value
          (humanize value ++ [' '] ++ humanize trigger.name) needed) := by
  obtain ⟨g, hg⟩ : ∃ g, UsageGroup.ofTexts? trigger.name value
      (humanize value ++ [' '] ++ humanize trigger.name) needed = some g := by
    rw [UsageGroup.ofTexts?, if_neg h]
    exact ⟨_, rfl⟩
  -- nothing is recovered, since no condition is given
  have hread : UsageGroup.ofFields (groupFields trigger value needed) = .ok g :=
    UsageGroup.ofFields_eq_ok_iff.mpr
      ⟨needed, "trigger", .str trigger.name, asTexts_map_str needed, rfl, hg⟩
  rw [hread, hg]
  rfl

/-- What a variable with a name that is not blank makes mandatory passes the check. -/
theorem checkedGroup_eq (c : Classified) (trigger : Declaration) (value : Text)
    (h : trim trigger.name ≠ []) : checkedGroup c trigger value = .ok (group? c trigger value) := by
  unfold checkedGroup group?
  cases requiredBy c trigger value with
  | nil => rfl
  | cons name names => exact ofFields_groupFields trigger value (name :: names) h

/-- Nothing of what the values of a trigger make mandatory fails its check. -/
theorem filterMapM_checkedGroup (c : Classified) (trigger : Declaration) (values : List Text)
    (h : ∀ value ∈ values, trim trigger.name ≠ []) :
    values.filterMapM (checkedGroup c trigger) = .ok (values.filterMap (group? c trigger)) := by
  induction values with
  | nil => rfl
  | cons value values ih =>
      have hvalue := checkedGroup_eq c trigger value (h value List.mem_cons_self)
      have hrest := ih fun v hv => h v (List.mem_cons_of_mem value hv)
      rw [List.filterMapM_cons, hvalue, List.filterMap_cons, hrest]
      cases group? c trigger value <;> rfl

/-- No group fails its check. -/
theorem checkedGroups_eq (c : Classified) : checkedGroups c = .ok (groups c) := by
  unfold checkedGroups groups
  induction c.trigger with
  | nil => rfl
  | cons trigger triggers ih =>
      have hhere := filterMapM_checkedGroup c trigger
        (Condition.listedValues trigger.condition trigger.name)
        fun value hvalue => Condition.trim_ne_nil_of_mem_listedValues hvalue
      rw [List.flatMapM_cons, hhere, ih, List.flatMap_cons]
      rfl

/-- Describing a module from its declarations passes every check. -/
theorem checked_eq (c : ModuleContext) : checked c = .ok (describe c) := by
  have hprose : (Description.ofFields
      [("description", .str (summary c.info.name)),
       ("features", .arr ((features c).map .str))]).value
        = .ok (Description.ofTexts (summary c.info.name) (features c) []) := by
    have hfeatures : ((Json.field? "features"
        [("description", .str (summary c.info.name)),
         ("features", .arr ((features c).map .str))]).getD .null).asTexts = .ok (features c) :=
      asTexts_map_str (features c)
    rw [Description.ofFields, hfeatures]
    rfl
  rw [checked, checkedGroups_eq, hprose]
  rfl

end Heuristic

/-! ## What a reply logs -/

/-- Reading groups logs warnings only. -/
theorem Description.level_of_mem_log_readGroups {index : Nat} {items : List Json} {entry : Entry}
    (h : entry ∈ (readGroups index items).log) : entry.level = .warning := by
  induction items generalizing index with
  | nil => cases h
  | cons item items ih =>
      rw [readGroups] at h
      split at h
      · rw [Logged.log_map] at h
        exact ih h
      · rw [Logged.log_bind] at h
        rcases List.mem_append.mp h with h | h
        · obtain rfl := List.mem_singleton.mp h
          rfl
        · exact ih h
      · cases h

/-- Reading the field for the groups logs warnings only. -/
theorem Description.level_of_mem_log_groupsField {v : Json} {entry : Entry}
    (h : entry ∈ (groupsField v).log) : entry.level = .warning := by
  cases v with
  | null => cases h
  | arr items => exact level_of_mem_log_readGroups h
  | _ =>
      obtain rfl := List.mem_singleton.mp h
      rfl

/-- Reading a reply logs warnings only. -/
theorem Reply.level_of_mem_log_description {reply : Text} {entry : Entry}
    (h : entry ∈ (description reply).log) : entry.level = .warning := by
  rw [description] at h
  split at h
  · cases h
  · rw [Logged.log_map, Description.ofFields] at h
    split at h
    · cases h
    · rw [Logged.log_map] at h
      exact Description.level_of_mem_log_groupsField h
  · cases h

/-! ## Answers that give a description and answers that do not -/

namespace ChatAnswer

/-- Whether an answer gives a description: a text that is not empty and is read as the description,
with what reading it logs. -/
def Gives (answer : ChatAnswer) (d : Description) (log : List Entry) : Prop :=
  ∃ content, content ≠ [] ∧ answer = .text (some content) ∧ Reply.description content = ⟨.ok d, log⟩

/-- Why an answer gives no description, with what reading it logs. -/
inductive FailsWith : ChatAnswer → ChatError → List Entry → Prop where
  /-- The service fails. -/
  | service (message : Text) : FailsWith (.failure message) (.service message) []
  /-- The service gives no choice. -/
  | noChoices : FailsWith .noChoices .noChoices []
  /-- The choice has no text. -/
  | noText : FailsWith (.text none) .emptyResponse []
  /-- The text of the choice is empty. -/
  | emptyText : FailsWith (.text (some [])) .emptyResponse []
  /-- The text is not that of a description. -/
  | reply {content : Text} {e : ReplyError} {log : List Entry} (hcontent : content ≠ [])
      (h : Reply.description content = ⟨.error e, log⟩) :
      FailsWith (.text (some content)) (.reply e) log

/-- An answer either gives a description or fails. -/
theorem gives_or_failsWith (answer : ChatAnswer) :
    (∃ d log, answer.Gives d log) ∨ ∃ e log, answer.FailsWith e log := by
  cases answer with
  | noChoices => exact .inr ⟨_, _, .noChoices⟩
  | failure message => exact .inr ⟨_, _, .service message⟩
  | text content =>
      cases content with
      | none => exact .inr ⟨_, _, .noText⟩
      | some content =>
          by_cases hcontent : content = []
          · subst hcontent
            exact .inr ⟨_, _, .emptyText⟩
          · obtain ⟨value, log, hread⟩ : ∃ value log, Reply.description content = ⟨value, log⟩ :=
              ⟨_, _, rfl⟩
            cases value with
            | ok d => exact .inl ⟨d, log, content, hcontent, rfl, hread⟩
            | error e => exact .inr ⟨.reply e, log, .reply hcontent hread⟩

/-- An answer that gives a description is interpreted as it. -/
theorem Gives.interpret {answer : ChatAnswer} {d : Description} {log : List Entry}
    (h : answer.Gives d log) : ChatOptions.interpret answer = ⟨.ok d, log⟩ := by
  obtain ⟨content, hcontent, rfl, hread⟩ := h
  obtain ⟨c, t, rfl⟩ := List.exists_cons_of_ne_nil hcontent
  rw [ChatOptions.interpret, hread]
  · exact Logged.ext_of rfl (Logged.log_map _ _)
  · exact List.cons_ne_nil c t

/-- An answer that fails is interpreted as the failure. -/
theorem FailsWith.interpret {answer : ChatAnswer} {e : ChatError} {log : List Entry}
    (h : answer.FailsWith e log) : ChatOptions.interpret answer = ⟨.error e, log⟩ := by
  cases h with
  | service message => rfl
  | noChoices => rfl
  | noText => rfl
  | emptyText => rfl
  | reply hcontent hread =>
      rw [ChatOptions.interpret, hread]
      · exact Logged.ext_of rfl (Logged.log_map _ _)
      · exact hcontent

/-- What is logged about an answer that fails are warnings. -/
theorem FailsWith.level_of_mem {answer : ChatAnswer} {e : ChatError} {log : List Entry}
    (h : answer.FailsWith e log) : ∀ entry ∈ log, entry.level = .warning := by
  cases h with
  | reply hcontent hread =>
      intro entry hentry
      exact Reply.level_of_mem_log_description (by rw [hread]; exact hentry)
  | _ => exact List.forall_mem_nil _

end ChatAnswer

/-- A client that notes what it is asked. -/
def ChatClient.noting (client : ChatClient) (r : ChatRequest) :
    StateM (List ChatRequest) ChatAnswer := do
  modify (· ++ [r])
  pure (client r)

namespace Describer

variable (o : ChatOptions) (fallback : Bool) (client : ChatClient) (c : ModuleContext)

/-- A chat describer makes one request, and what it does with the answer is no request. -/
theorem run_describeVia_noting (noted : List ChatRequest) :
    ((chat o fallback).describeVia client.noting c).run noted
      = ((chat o fallback).describe client c, noted ++ [o.request c]) := rfl

/-- The entry about a failure. -/
def failed (e : ChatError) : Entry :=
  ⟨.error, "LLM description failed for '" ++ c.info.name ++ "': " ++ e.message o.providerName⟩

/-- The entry about falling back on the declarations. -/
def fallingBack : Entry := ⟨.warning, "Falling back to heuristic for '" ++ c.info.name ++ "'"⟩

/-- For every module and whatever the client does, a chat describer makes one request.  A text that
gives a description gives it.  Otherwise the describer with a fallback describes the module from its
declarations, which passes every check, after an error and a warning; without one it fails, with
what was wrong with the content or else with the failure under the name of the service. -/
theorem describe_chat :
    (∀ noted, ((chat o fallback).describeVia client.noting c).run noted
      = ((chat o fallback).describe client c, noted ++ [o.request c])) ∧
    (∀ d log, (client (o.request c)).Gives d log →
      (chat o fallback).describe client c = ⟨.ok d, log⟩) ∧
    ((¬ ∃ d log, (client (o.request c)).Gives d log) →
      ∃ e reading, (client (o.request c)).FailsWith e reading ∧
        (∀ entry ∈ reading, entry.level = .warning) ∧
        (chat o true).describe client c
          = ⟨.ok (Heuristic.describe c), reading ++ [failed o c e, fallingBack c]⟩ ∧
        (chat o false).describe client c
          = ⟨.error (if e.isAboutContent then e.message o.providerName
              else o.providerName ++ " API error: " ++ e.message o.providerName),
             reading ++ [failed o c e]⟩) ∧
    Heuristic.checked c = .ok (Heuristic.describe c) := by
  refine ⟨run_describeVia_noting o fallback client c, ?_, ?_, Heuristic.checked_eq c⟩
  · intro d log hgives
    show o.conclude fallback c (client (o.request c)) = _
    rw [ChatOptions.conclude, hgives.interpret]
  · intro hnone
    -- a reply that gives no description fails with one error; the setting decides what comes next
    rcases (client (o.request c)).gives_or_failsWith with hgives | ⟨e, reading, hfails⟩
    · exact absurd hgives hnone
    · refine ⟨e, reading, hfails, hfails.level_of_mem, ?_, ?_⟩
      · show o.conclude true c (client (o.request c)) = _
        rw [ChatOptions.conclude, hfails.interpret]
        rfl
      · show o.conclude false c (client (o.request c)) = _
        rw [ChatOptions.conclude, hfails.interpret]
        rfl

/-- A reply that gives a description is taken.  An answer without any choice has the module
described from its declarations, or is reported under the name of the service. -/
theorem describe_chat_answers :
    (chat { apiKey := "key" } true).describe
        (fun _ => .text (some "\x7b\"description\": \"Rows\"\x7d"))
        ⟨⟨"store", "", "v1"⟩, [], {}, [], []⟩ = ⟨.ok ⟨"Rows", [], []⟩, []⟩ ∧
      (chat { apiKey := "key" } true).describe (fun _ => .noChoices)
          ⟨⟨"store", "", "v1"⟩, [], {}, [], []⟩
        = ⟨.ok ⟨"Terraform module for Store", [], []⟩,
            [⟨.error, "LLM description failed for 'store': list index out of range"⟩,
             ⟨.warning, "Falling back to heuristic for 'store'"⟩]⟩ ∧
      (chat { apiKey := "key" } false).describe (fun _ => .noChoices)
          ⟨⟨"store", "", "v1"⟩, [], {}, [], []⟩
        = ⟨.error "OpenAI API error: list index out of range",
            [⟨.error, "LLM description failed for 'store': list index out of range"⟩]⟩ := by
  let store : ModuleContext := ⟨⟨"store", "", "v1"⟩, [], {}, [], []⟩
  obtain ⟨-, htaken, -⟩ := describe_chat { apiKey := "key" } true
    (fun _ => .text (some "\x7b\"description\": \"Rows\"\x7d")) store
  obtain ⟨-, -, hfailed, -⟩ := describe_chat { apiKey := "key" } true (fun _ => .noChoices) store
  have hgives : (ChatAnswer.text (some "\x7b\"description\": \"Rows\"\x7d")).Gives
      ⟨"Rows", [], []⟩ [] := by
    refine ⟨_, by decide, rfl, Logged.ext_of ?_ (by decide +kernel)⟩
    have hread : (Reply.description "\x7b\"description\": \"Rows\"\x7d").value.toOption
        = some ⟨"Rows", [], []⟩ := by decide +kernel
    cases hvalue : (Reply.description "\x7b\"description\": \"Rows\"\x7d").value with
    | ok d =>
        rw [hvalue] at hread
        exact congrArg Except.ok (Option.some.inj hread)
    | error e =>
        rw [hvalue] at hread
        exact nomatch hread
  have hnone : ¬ ∃ d log, ChatAnswer.noChoices.Gives d log := by
    rintro ⟨d, log, content, -, h, -⟩
    exact nomatch h
  obtain ⟨e, reading, hfails, -, hfallback, hreport⟩ := hfailed hnone
  cases hfails with
  | noChoices => exact ⟨htaken _ _ hgives, hfallback, hreport⟩

end Describer

end ModuleDocs
