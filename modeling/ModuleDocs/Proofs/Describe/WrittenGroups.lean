import ModuleDocs.Proofs.Describe.ModuleGroups
import ModuleDocs.Proofs.Module.WrittenModule

/-! # The usage groups of written modules

    A pair of a trigger and a value makes a usage group when the trigger
    lists the value and some conditional variable is demanded for it.  The
    describer finds these pairs in the texts of the conditions only, and it
    finds them all: each once, by trigger in the order of discovery and then
    by the place of the value in the list of the trigger. -/

namespace ModuleDocs

open Text Hcl Condition

/-- The values that a variable lists: none unless it is a trigger. -/
def Role.values : Role → List Text
  | trigger values => values
  | _ => []

namespace WrittenModule

/-- The variables of one category, in the order of discovery. -/
def ofCategory (p : WrittenModule) (category : Category) : List WrittenVariable :=
  p.inputs.filter (·.role.category = category)

/-- The conditional variables that are demanded for a value of a trigger. -/
def demandedBy (p : WrittenModule) (trigger value : Text) : List Text :=
  (p.inputs.filter (·.role = .conditional trigger value)).map (·.name)

/-- The pairs of a trigger and a value that it lists: by trigger in the order of discovery, then
by the place of the value. -/
def listed (p : WrittenModule) : List (Text × Text) :=
  p.inputs.flatMap fun v => v.role.values.map (v.name, ·)

/-- The listed pairs for which some variable is demanded. -/
def pairs (p : WrittenModule) : List (Text × Text) :=
  p.listed.filter fun pair => p.demandedBy pair.1 pair.2 ≠ []

/-- The usage group of a pair. -/
def group (p : WrittenModule) (pair : Text × Text) : UsageGroup :=
  let label := trim (Heuristic.humanize pair.2 ++ [' '] ++ Heuristic.humanize pair.1)
  { trigger := pair.1
    value := pair.2
    label := if label = [] then Condition.equals pair.1 pair.2 else label
    needed := p.demandedBy pair.1 pair.2 }

/-! ## Pairs -/

/-- A variable is demanded for a value exactly if it was written so. -/
theorem mem_demandedBy {p : WrittenModule} {trigger value name : Text} :
    name ∈ p.demandedBy trigger value ↔ ⟨name, .conditional trigger value⟩ ∈ p.inputs := by
  rw [demandedBy, List.mem_map]
  constructor
  · rintro ⟨⟨name', role⟩, hv, rfl⟩
    obtain ⟨hv, hrole⟩ := List.mem_filter.mp hv
    obtain rfl := of_decide_eq_true hrole
    exact hv
  · intro hv
    exact ⟨_, List.mem_filter.mpr ⟨hv, decide_eq_true rfl⟩, rfl⟩

/-- A pair is listed exactly if its trigger was written with its value. -/
theorem mem_listed {p : WrittenModule} {trigger value : Text} :
    (trigger, value) ∈ p.listed ↔
      ∃ values, ⟨trigger, .trigger values⟩ ∈ p.inputs ∧ value ∈ values := by
  rw [listed, List.mem_flatMap]
  constructor
  · rintro ⟨⟨name, role⟩, hv, hpair⟩
    obtain ⟨value', hvalue, hpair⟩ := List.mem_map.mp hpair
    obtain ⟨rfl, rfl⟩ := Prod.mk.inj hpair
    cases role with
    | required => exact nomatch hvalue
    | trigger values => exact ⟨values, hv, hvalue⟩
    | conditional on value => exact nomatch hvalue
  · rintro ⟨values, hv, hvalue⟩
    exact ⟨_, hv, List.mem_map.mpr ⟨value, hvalue, rfl⟩⟩

/-- A pair makes a group exactly if its trigger lists its value and some variable refers to it. -/
theorem mem_pairs {p : WrittenModule} {trigger value : Text} :
    (trigger, value) ∈ p.pairs ↔
      (∃ values, ⟨trigger, .trigger values⟩ ∈ p.inputs ∧ value ∈ values) ∧
        ∃ name, ⟨name, .conditional trigger value⟩ ∈ p.inputs := by
  rw [pairs, List.mem_filter, mem_listed, decide_eq_true_iff]
  refine and_congr_right fun _ => ?_
  constructor
  · intro hne
    obtain ⟨name, hname⟩ := List.exists_mem_of_ne_nil _ hne
    exact ⟨name, mem_demandedBy.mp hname⟩
  · rintro ⟨name, hv⟩
    exact List.ne_nil_of_mem (mem_demandedBy.mpr hv)

section Plain

variable {p : WrittenModule} (hp : p.IsPlain)
include hp

/-- No pair is listed twice. -/
theorem nodup_listed : p.listed.Nodup := by
  rw [listed, List.nodup_flatMap]
  constructor
  · intro v hv
    have hrole := (isPlain_of_mem hp hv).role
    refine List.Nodup.map (fun value value' h => (Prod.mk.inj h).2) ?_
    cases hr : v.role with
    | required => exact List.nodup_nil
    | trigger values =>
        rw [hr] at hrole
        exact hrole.2
    | conditional on value => exact List.nodup_nil
  · -- pairs of different variables differ in the name
    refine (List.pairwise_map.mp (nodup_names hp)).imp fun {v v'} hne => ?_
    intro pair hpair hpair'
    obtain ⟨value, -, rfl⟩ := List.mem_map.mp hpair
    obtain ⟨value', -, heq⟩ := List.mem_map.mp hpair'
    exact hne (Prod.mk.inj heq).1.symm

end Plain

/-! ## Groups -/

section Groups

variable {p : WrittenModule} (hp : p.IsPlain) (info : ModuleMeta)
include hp

end Groups

end WrittenModule

end ModuleDocs
