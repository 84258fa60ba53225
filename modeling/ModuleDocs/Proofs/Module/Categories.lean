import ModuleDocs.Module.Category
import ModuleDocs.Proofs.Module.RepeatedNames

/-! # Each variable in its category

    A variable belongs to one category, by having a default or not and a
    validation or not.  Sorting takes every declaration to the category to
    which it belongs and to no other, in the order of discovery, so nothing
    is lost and nothing doubled.  Looking a name up in the categories is
    another way to the same data; the two agree when every name is declared
    once, which is what a duplicate policy sees to. -/

namespace ModuleDocs

variable {ds : List Declaration} {d : Declaration} {category : Category} {name : Text}

/-! ## The table of categories -/

/-- Whether a declaration belongs to a category. -/
def Declaration.Belongs (d : Declaration) : Category → Prop
  | .required => d.default = none ∧ d.validation = none
  | .trigger => d.default = none ∧ d.validation ≠ none
  | .conditional => d.default ≠ none ∧ d.validation ≠ none
  | .optional => d.default ≠ none ∧ d.validation = none

/-- The category of a declaration is the one to which it belongs. -/
theorem Category.of_eq_iff : Category.of d = category ↔ d.Belongs category := by
  unfold Category.of Declaration.hasDefault
  cases hdefault : d.default <;> cases hvalidation : d.validation <;> cases category <;>
    simp [Declaration.Belongs, hdefault, hvalidation]

theorem Category.mem_all (category : Category) : category ∈ Category.all := by
  cases category <;> decide

/-! ## Sorting -/

namespace Classified

/-- The places at which declarations of a category stand, in order. -/
def places (ds : List Declaration) (category : Category) : List (Fin ds.length) :=
  (List.finRange ds.length).filter fun i => Category.of (ds.get i) = category

theorem mem_places {i : Fin ds.length} :
    i ∈ places ds category ↔ (ds.get i).Belongs category := by
  rw [places, List.mem_filter, decide_eq_true_iff, Category.of_eq_iff]
  exact and_iff_right (List.mem_finRange i)

theorem pairwise_places (ds : List Declaration) (category : Category) :
    (places ds category).Pairwise (· < ·) :=
  (List.pairwise_lt_finRange ds.length).filter _

/-- A category lists what stands at its places. -/
theorem ofCategory_eq_map_places (ds : List Declaration) (category : Category) :
    (ofList ds).ofCategory category = (places ds category).map ds.get := by
  have hall : (List.finRange ds.length).map ds.get = ds :=
    List.ofFn_eq_map.symm.trans (List.ofFn_get ds)
  rw [ofCategory_ofList, places]
  conv_lhs => rw [← hall, List.filter_map]
  rfl

theorem total_ofList_cons (d : Declaration) (ds : List Declaration) :
    (ofList (d :: ds)).total = (ofList ds).total + 1 := by
  simp only [ofList, total, List.filter_cons]
  cases Category.of d <;> simp <;> omega

/-- No declaration is lost or doubled. -/
theorem total_ofList (ds : List Declaration) : (ofList ds).total = ds.length := by
  induction ds with
  | nil => rfl
  | cons d ds ih => rw [total_ofList_cons, ih, List.length_cons]

/-! ## Looking a name up -/

/-- A category holds a name when a declaration of this name belongs to it. -/
theorem any_ofCategory_iff :
    ((ofList ds).ofCategory category).any (·.name = name) = true ↔
      ∃ d ∈ ds, d.name = name ∧ d.Belongs category := by
  simp only [ofCategory_ofList, List.any_filter, List.any_eq_true, Bool.and_eq_true,
    decide_eq_true_eq, Category.of_eq_iff]
  exact exists_congr fun d => and_congr_right fun _ => and_comm

/-- No category is found exactly for the names that are not declared. -/
theorem categoryOf?_eq_none_iff :
    (ofList ds).categoryOf? name = none ↔ name ∉ ds.map (·.name) := by
  rw [categoryOf?, List.find?_eq_none]
  simp only [any_ofCategory_iff, List.mem_map]
  constructor
  · rintro hnone ⟨d, hd, hname⟩
    exact hnone (Category.of d) (Category.mem_all _) ⟨d, hd, hname, Category.of_eq_iff.mp rfl⟩
  · rintro hnone category - ⟨d, hd, hname, -⟩
    exact hnone ⟨d, hd, hname⟩

/-- A category that is found is that of a declaration of this name. -/
theorem exists_of_categoryOf?_eq_some (h : (ofList ds).categoryOf? name = some category) :
    ∃ d ∈ ds, d.name = name ∧ d.Belongs category := by
  have hfound := List.find?_some h
  exact any_ofCategory_iff.mp hfound

/-- The category of the only declaration of a name is found. -/
theorem categoryOf?_of_filter_eq_singleton (h : ds.filter (·.name = name) = [d]) :
    (ofList ds).categoryOf? name = some (Category.of d) := by
  have hd : d ∈ ds ∧ d.name = name := by
    have hmem : d ∈ ds.filter (·.name = name) := h ▸ List.mem_singleton_self d
    simpa using hmem
  have hfound : (ofList ds).categoryOf? name ≠ none := by
    rw [Ne, categoryOf?_eq_none_iff, not_not]
    exact List.mem_map.mpr ⟨d, hd⟩
  obtain ⟨category, hcategory⟩ := Option.ne_none_iff_exists'.mp hfound
  obtain ⟨e, he, hname, hbelongs⟩ := exists_of_categoryOf?_eq_some hcategory
  -- a declaration of this name is the only one
  have hsame : e ∈ ds.filter (·.name = name) := List.mem_filter.mpr ⟨he, decide_eq_true hname⟩
  rw [h, List.mem_singleton] at hsame
  rw [hcategory, Category.of_eq_iff.mpr (hsame ▸ hbelongs)]

/-- Where nothing is named twice, a declared name has one declaration. -/
theorem exists_filter_eq_singleton (hnodup : (ds.map (·.name)).Nodup)
    (hname : name ∈ ds.map (·.name)) : ∃ d, ds.filter (·.name = name) = [d] := by
  have hcount : (ds.filter (·.name = name)).length = (ds.map (·.name)).count name := by
    rw [← List.countP_eq_length_filter, List.count, List.countP_map]
    exact List.countP_congr fun d _ => by simp
  rw [List.count_eq_one_of_mem hnodup hname] at hcount
  exact List.length_eq_one_iff.mp hcount

/-- Sorting takes what stands at each place to the one category to which it belongs, keeps the
order, and loses and doubles nothing.  In what a duplicate policy lets pass every declared name has
one declaration, the category of which is found under the name; for exactly the names that are not
declared none is found. -/
theorem ofList_partitions (ds : List Declaration) :
    (∀ category, (places ds category).Pairwise (· < ·) ∧
      (ofList ds).ofCategory category = (places ds category).map ds.get) ∧
    (∀ i category, i ∈ places ds category ↔ (ds.get i).Belongs category) ∧
    (∀ i, ∃! category, i ∈ places ds category) ∧
    (ofList ds).total = ds.length ∧
    ∀ policy kept, (resolveDuplicates policy ds).value = .ok kept → ∀ name,
      (name ∈ ds.map (·.name) → ∃ d category, kept.filter (·.name = name) = [d] ∧
        d.Belongs category ∧ (ofList kept).categoryOf? name = some category) ∧
      ((ofList kept).categoryOf? name = none ↔ name ∉ ds.map (·.name)) := by
  refine ⟨fun category => ⟨pairwise_places ds category, ofCategory_eq_map_places ds category⟩,
    fun _ _ => mem_places, ?_, total_ofList ds, ?_⟩
  · intro i
    refine ⟨Category.of (ds.get i), mem_places.mpr (Category.of_eq_iff.mp rfl), ?_⟩
    intro category hmem
    exact (Category.of_eq_iff.mpr (mem_places.mp hmem)).symm
  · intro policy kept hkept name
    have hnames : name ∈ kept.map (·.name) ↔ name ∈ ds.map (·.name) :=
      mem_names_of_resolveDuplicates hkept
    rw [categoryOf?_eq_none_iff, hnames]
    refine ⟨fun hname => ?_, Iff.rfl⟩
    obtain ⟨d, hd⟩ :=
      exists_filter_eq_singleton (nodup_of_resolveDuplicates hkept) (hnames.mpr hname)
    exact ⟨d, Category.of d, hd, Category.of_eq_iff.mp rfl,
      categoryOf?_of_filter_eq_singleton hd⟩

/-- Five variables, the first of them declared once more in another category. -/
theorem ofList_partitions_renewed :
    let declare (name : Text) (default : Option Text) (condition : Option Text) : Declaration :=
      { kind := "variable", name, rawBlock := [], default
        validation := condition.map fun c => { condition := c } }
    let ds := [declare "a" none none, declare "b" none (some "c"),
      declare "c" (some "1") (some "c"), declare "d" (some "null") none,
      declare "a" (some "2") (some "c")]
    (resolveDuplicates .lastWins ds).value = .ok (ds.drop 1) ∧ (ofList ds).total = 5 ∧
      (ofList (ds.drop 1)).categoryOf? "a" = some .conditional ∧
      (ofList (ds.drop 1)).categoryOf? "e" = none := by
  intro declare ds
  have hkept : (resolveDuplicates .lastWins ds).value = .ok (ds.drop 1) :=
    value_resolveDuplicates_lastWins ds
  obtain ⟨-, -, -, htotal, hlookup⟩ := ofList_partitions ds
  obtain ⟨d, category, hd, hbelongs, hfound⟩ := (hlookup _ _ hkept "a").1 (by decide)
  obtain rfl : declare "a" (some "2") (some "c") = d := List.singleton_inj.mp hd
  obtain rfl : Category.conditional = category := Category.of_eq_iff.mpr hbelongs
  exact ⟨hkept, htotal, hfound, (hlookup _ _ hkept "e").2.mpr (by decide)⟩

end Classified

end ModuleDocs
