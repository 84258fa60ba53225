import ModuleDocs.Proofs.Generate.FileOrder
import ModuleDocs.Proofs.Hcl.Boundary

/-! # A file that is cut in two

    How declarations are spread over files is for a reader of the module
    only.  A file may be cut at a boundary between its declarations, and what
    stands behind the boundary moved to a file with a later name: the
    declarations come in the same order, so they are sorted out in the same
    way, or refused for the same names. -/

namespace ModuleDocs.Generate

open Text

variable {info : ModuleMeta} {files : List (Text × Text)} {f g a b : Text}

/-- What a context holds besides its files. -/
def contents (c : ModuleContext) : List Declaration × Classified × List Declaration :=
  (c.declarations, c.classified, c.outputs)

/-- A file cut in two at a boundary holds the declarations of its parts, of variables and of
outputs, and the module with the two files in place of the one has the same declarations, sorted out
in the same way, and the same outputs, or it is refused with the same error. -/
theorem contextOf_cut_file {parts parts' : Components} {scanner : Instance Hcl.BraceMode}
    (hscanner : parts.getScanner none = .ok (scanner, parts'))
    (hboundary : Hcl.IsBoundary scanner.value a b) (hle : le f g = true) (hne : f ≠ g)
    (hperm : files.Perm [(f, a), (g, b)]) (info : ModuleMeta) :
    (∀ keyword : Text, keyword = "variable" ∨ keyword = "output" →
      (Hcl.scan scanner.value (a ++ b) keyword).value
        = (Hcl.scan scanner.value a keyword).value ++ (Hcl.scan scanner.value b keyword).value) ∧
      (Action.run (contextOf info files) parts).value.1.map contents
        = (Action.run (contextOf info [(f, a ++ b)]) parts).value.1.map contents := by
  have hscan : ∀ keyword : Text, keyword = "variable" ∨ keyword = "output" →
      (Hcl.scan scanner.value (a ++ b) keyword).value
        = (Hcl.scan scanner.value a keyword).value ++ (Hcl.scan scanner.value b keyword).value :=
    fun keyword hkeyword => hboundary.value_scan_append hkeyword
  refine ⟨hscan, ?_⟩
  have htwo : ByName [(f, a), (g, b)] :=
    List.pairwise_pair.mpr ⟨hle, hne⟩
  have hone : ByName [(f, a ++ b)] := List.pairwise_singleton _ _
  -- cut or not, the files give the same occurrences in the same order
  have hvariables : occurrences scanner.value [(f, a), (g, b)]
      = occurrences scanner.value [(f, a ++ b)] := by
    simp only [occurrences, List.flatMap_cons, List.flatMap_nil, List.append_nil]
    exact (hscan "variable" (Or.inl rfl)).symm
  have houtputs : ([(f, a), (g, b)].flatMap fun file =>
        (Hcl.scanOutputs scanner.value file.2).value)
      = [(f, a ++ b)].flatMap fun file => (Hcl.scanOutputs scanner.value file.2).value := by
    simp only [List.flatMap_cons, List.flatMap_nil, List.append_nil]
    exact (hscan "output" (Or.inr rfl)).symm
  rw [contextOf_eq_of_perm hperm htwo, value_contextOf hscanner htwo,
    value_contextOf hscanner hone, hvariables, houtputs]
  cases (resolveDuplicates parts.settings.duplicatePolicy
    (occurrences scanner.value [(f, a ++ b)])).value with
  | error e => rfl
  | ok inputs => rfl

/-- A file with braces in a string and in a comment is cut between a variable and an output, and a
name that both parts declare is refused as before. -/
theorem contextOf_cut_file_shop :
    let a : Text := "variable \"size\" \x7b\n  default = \"\x7d\" # \x7b\n\x7d\n"
    let b : Text := "output \"id\" \x7b value = 1 \x7d\nvariable \"size\" \x7b\x7d"
    let parts : Components := { settings := { quoteAware := true } }
    let info : ModuleMeta := ⟨"shop", "./shop", "v1.0.0"⟩
    Hcl.IsBoundary .quoteAware a b ∧
      (Action.run (contextOf info [("b.tf", b), ("a.tf", a)]) parts).value.1.map contents
        = (Action.run (contextOf info [("a.tf", a ++ b)]) parts).value.1.map contents := by
  intro a b parts info
  have hboundary : Hcl.IsBoundary .quoteAware a b := by
    refine ⟨rfl, ?_, ?_⟩ <;> rintro _ (rfl | rfl) <;> decide +kernel
  refine ⟨hboundary, ?_⟩
  have hscanner : parts.getScanner none = .ok (⟨0, .quoteAware⟩, _) := rfl
  exact (contextOf_cut_file (f := "a.tf") (g := "b.tf") hscanner hboundary (by decide) (by decide)
    (List.Perm.swap _ _ []) info).2

end ModuleDocs.Generate
