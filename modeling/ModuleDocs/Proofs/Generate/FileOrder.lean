import ModuleDocs.Proofs.Generate.Offer
import ModuleDocs.Proofs.Module.RepeatedNames

/-! # The order of files

    A module is a mapping of file names to texts, so the order in which its
    files are given must not show.  It does not: the files are gone through
    by name.  In that order the policy about repeated names says which
    declarations are kept, or which names are refused. -/

namespace ModuleDocs.Generate

open Text

variable {info : ModuleMeta} {files inOrder : List (Text × Text)}

/-- Whether files have names of their own and stand in the order of these names. -/
def ByName (files : List (Text × Text)) : Prop :=
  files.Pairwise fun a b => le a.1 b.1 = true ∧ a.1 ≠ b.1

instance (files : List (Text × Text)) : Decidable (ByName files) :=
  inferInstanceAs (Decidable (files.Pairwise _))

/-- Files with names of their own can be put in the order of these names. -/
theorem byName_sortFiles (h : (files.map (·.1)).Nodup) : ByName (ModuleContext.sortFiles files) := by
  have hperm : (ModuleContext.sortFiles files).Perm files := List.mergeSort_perm files _
  have hdistinct : ((ModuleContext.sortFiles files).map (·.1)).Nodup :=
    (hperm.map _).nodup_iff.mpr h
  exact (ModuleContext.pairwise_sortFiles files).and (List.pairwise_map.mp hdistinct)

/-- In whatever order the files are given, all that is seen of them is their order by name. -/
theorem contextOf_eq_of_perm (hperm : files.Perm inOrder) (hordered : ByName inOrder) :
    contextOf info files = contextOf info inOrder := by
  have hsame : ∀ m policy, ModuleContext.build m policy info files
      = ModuleContext.build m policy info inOrder := by
    intro m policy
    unfold ModuleContext.build
    rw [ModuleContext.sortFiles_eq hperm hordered,
      ModuleContext.sortFiles_eq (List.Perm.refl inOrder) hordered]
  unfold contextOf
  simp only [hsame]

/-- With a scanner the context of files in order comes to the declarations that the policy lets
pass, and everything else is what the files hold. -/
theorem value_contextOf {parts parts' : Components} {scanner : Instance Hcl.BraceMode}
    (hscanner : parts.getScanner none = .ok (scanner, parts')) (hordered : ByName inOrder) :
    (Action.run (contextOf info inOrder) parts).value.1
      = ((resolveDuplicates parts.settings.duplicatePolicy
          (occurrences scanner.value inOrder)).value.map fun inputs =>
            ({ info := info
               declarations := inputs
               classified := .ofList inputs
               outputs := inOrder.flatMap fun file => (Hcl.scanOutputs scanner.value file.2).value
               files := inOrder } : ModuleContext)).mapError .duplicates := by
  have hoffer : (parts.offer Git.silent).scanner = .ok scanner.value := by
    rcases parts.getScanner_cases Git.silent with ⟨kept, _, hask, hoffer, -⟩ | ⟨e, hask, -⟩
    · obtain ⟨rfl, -⟩ := Prod.mk.inj (Except.ok.inj (hask.symm.trans hscanner))
      exact hoffer
    · exact nomatch hask.symm.trans hscanner
  have hcomes := (comesTo_contextOf Git.silent info inOrder parts rfl).1
  rw [hcomes, hoffer]
  show (ModuleContext.build scanner.value parts.settings.duplicatePolicy info inOrder).value.mapError
    GenerateError.duplicates = _
  rw [ModuleContext.value_build, ModuleContext.sortFiles_eq (List.Perm.refl inOrder) hordered]

/-- The order in which the files of a module are given does not show, neither in its context nor in
the log nor in an error.  With `ds` the declarations of variables by file name and then by place:
when last declarations win, what stands at the last places of `ds` is kept, so each of its names
once; when repeats are refused, exactly the names that occur more than once are given as the reason,
in order and each once, and without such names all of `ds` is kept.  What a policy lets pass is let
pass again by each, without a word in the log. -/
theorem contextOf_repeated_names (hperm : files.Perm inOrder) (hordered : ByName inOrder)
    (info : ModuleMeta) :
    contextOf info files = contextOf info inOrder ∧
      (∀ parts scanner parts', parts.getScanner none = .ok (scanner, parts') →
        let ds := occurrences scanner.value inOrder
        let result := (Action.run (contextOf info files) parts).value.1
        (parts.settings.duplicatePolicy = .lastWins →
          ∃ c, result = .ok c ∧ c.declarations = (lastPlaces ds).map ds.get ∧
            (c.declarations.map (·.name)).Nodup ∧
            ∀ name, name ∈ c.declarations.map (·.name) ↔ name ∈ ds.map (·.name)) ∧
        (parts.settings.duplicatePolicy = .reject →
          ((∃ name, 1 < (ds.map (·.name)).count name) →
            ∃ names, result = .error (.duplicates (.rejected names)) ∧
              names.Pairwise (fun s t => le s t = true) ∧ names.Nodup ∧
              ∀ name, name ∈ names ↔ 1 < (ds.map (·.name)).count name) ∧
          ((∀ name, (ds.map (·.name)).count name ≤ 1) →
            ∃ c, result = .ok c ∧ c.declarations = ds))) ∧
      ∀ policy ds kept, (resolveDuplicates policy ds).value = .ok kept →
        ∀ again, resolveDuplicates again kept = pure (.ok kept) := by
  have hsame : contextOf info files = contextOf info inOrder := contextOf_eq_of_perm hperm hordered
  refine ⟨hsame, ?_, ?_⟩
  · intro parts scanner parts' hscanner ds result
    -- the declarations are those of the files in order, passed through the policy
    have hresult : result = _ :=
      (congrArg (fun x => (Action.run x parts).value.1) hsame).trans
        (value_contextOf hscanner hordered)
    clear_value result
    subst hresult
    refine ⟨fun hpolicy => ?_, fun hpolicy => ⟨?_, ?_⟩⟩
    · rw [hpolicy, value_resolveDuplicates_lastWins]
      exact ⟨_, rfl, lastOccurrences_eq ds, nodup_names_lastOccurrences ds,
        fun name => mem_names_lastOccurrences⟩
    · rintro ⟨name, hcount⟩
      have hrepeated : ¬ (ds.map (·.name)).Nodup := fun h =>
        absurd (List.nodup_iff_count.mp h name) (Nat.not_le_of_lt hcount)
      rw [hpolicy, value_resolveDuplicates_reject hrepeated]
      exact ⟨_, rfl, pairwise_sort _, nodup_repeatedNames ds, fun name => mem_repeatedNames⟩
    · intro hcount
      rw [hpolicy, resolveDuplicates_of_nodup _ (List.nodup_iff_count.mpr hcount)]
      exact ⟨_, rfl, rfl⟩
  · intro policy ds kept hkept again
    exact resolveDuplicates_of_nodup again (nodup_of_resolveDuplicates hkept)

/-- Two files that declare one variable: the later file by name wins although it is given first, or
the name is refused. -/
theorem contextOf_repeated_names_size :
    let later : Text × Text := ("b.tf", "variable \"size\" \x7b default = 1 \x7d")
    let earlier : Text × Text := ("a.tf", "variable \"size\" \x7b\x7d\nvariable \"name\" \x7b\x7d")
    let info : ModuleMeta := ⟨"store", "./store", "v1.0.0"⟩
    ByName [earlier, later] ∧
      (∃ c, (Action.run (contextOf info [later, earlier])
          { settings := { duplicatePolicy := .lastWins } }).value.1 = .ok c ∧
        c.declarations.map (fun d => (d.name, d.default))
          = [(("name" : Text), none), (("size" : Text), some ("1" : Text))]) ∧
      ∃ names, (Action.run (contextOf info [later, earlier]) { settings := {} }).value.1
          = .error (.duplicates (.rejected names)) ∧ ("size" : Text) ∈ names := by
  intro later earlier info
  have hordered : ByName [earlier, later] := by decide +kernel
  obtain ⟨-, hpolicies, -⟩ :=
    contextOf_repeated_names (List.Perm.swap earlier later []) hordered info
  refine ⟨hordered, ?_, ?_⟩
  · obtain ⟨c, hc, hdeclarations, -⟩ :=
      (hpolicies { settings := { duplicatePolicy := .lastWins } } ⟨0, .plain⟩ _ rfl).1 rfl
    refine ⟨c, hc, ?_⟩
    rw [hdeclarations]
    decide +kernel
  · obtain ⟨names, hnames, -, -, hmem⟩ :=
      ((hpolicies { settings := {} } ⟨0, .plain⟩ _ rfl).2 rfl).1
        ⟨("size" : Text), by decide +kernel⟩
    exact ⟨names, hnames, (hmem "size").mpr (by decide +kernel)⟩

end ModuleDocs.Generate
