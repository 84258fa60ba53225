import Mathlib
import ModuleDocs.Checkout.Modules
import ModuleDocs.Proofs.Files.Rewriting

/-! # What a module depends on

    Reading a module looks at the directories of the tree and at those files
    of its own directory that its patterns accept.  Two trees that agree about
    these give the same files, the same name and the same source, or the same
    error. -/

namespace ModuleDocs

open Text

/-- Sorting and then leaving texts out is the same as leaving them out first. -/
theorem Text.filter_sort (keep : Text → Bool) (ts : List Text) :
    (sort ts).filter keep = sort (ts.filter keep) := by
  have hperm : ((sort ts).filter keep).Perm (sort (ts.filter keep)) :=
    ((perm_sort ts).filter keep).trans (perm_sort (ts.filter keep)).symm
  exact hperm.eq_of_pairwise (fun _ _ _ _ => le_antisymm) ((pairwise_sort ts).filter keep)
    (pairwise_sort _)

section Steps

variable {ε α β : Type} {f g : α → Except ε (Option β)} {l : List α}

/-- Steps that are the same for all members come to the same. -/
theorem List.filterMapM_congr_mem (h : ∀ a ∈ l, f a = g a) : l.filterMapM f = l.filterMapM g := by
  induction l with
  | nil => rfl
  | cons a l ih =>
      rw [List.filterMapM_cons, List.filterMapM_cons, h a List.mem_cons_self,
        ih fun b hb => h b (List.mem_cons_of_mem a hb)]

/-- A member that gives nothing can be left out. -/
theorem List.filterMapM_filter (keep : α → Bool)
    (h : ∀ a ∈ l, keep a = false → f a = .ok none) :
    (l.filter keep).filterMapM f = l.filterMapM f := by
  induction l with
  | nil => rfl
  | cons a l ih =>
      have hrest := ih fun b hb => h b (List.mem_cons_of_mem a hb)
      rw [List.filterMapM_cons]
      cases hkeep : keep a with
      | true => rw [List.filter_cons_of_pos hkeep, List.filterMapM_cons, hrest]
      | false =>
          rw [List.filter_cons_of_neg (by simp [hkeep]), h a List.mem_cons_self hkeep, hrest]
          rfl

end Steps

namespace Tree

variable {t t' : Tree} {cwd l : Location} {p : Path}

theorem isFileName_of_mem_namesIn {name : Text} (h : name ∈ t.namesIn l) :
    isFileName name = true := by
  obtain ⟨⟨k, n⟩, hentry, hname⟩ := List.mem_filterMap.mp h
  split at hname
  · exact t.named k (List.mem_map.mpr ⟨_, hentry, rfl⟩) name (List.mem_of_getLast? hname)
  · exact nomatch hname

/-- A file is read the same where the directories are the same and the place holds the same. -/
theorem SameDirectories.read (h : SameDirectories t t') (hl : t.locate cwd p = .ok l)
    (hnode : t.node? l = t'.node? l) : t.read cwd p = t'.read cwd p := by
  rw [Tree.read, Tree.read, hl, h.locate_eq_ok hl]
  dsimp only
  rw [hnode]

/-- What is found at a path is read the same where the directories are the same and the place holds
the same. -/
theorem SameDirectories.read_of_look (h : SameDirectories t t') {n : Node}
    (hnode : t.node? (p.resolve cwd) = t'.node? (p.resolve cwd))
    (hlook : t.look cwd p = .ok (some n)) : t.read cwd p = t'.read cwd p := by
  cases hl : t.locate cwd p with
  | ok l =>
      obtain rfl := eq_of_locate hl
      exact h.read hl hnode
  | error cause =>
      rw [Tree.look, hl] at hlook
      cases cause <;> exact nomatch hlook

/-- An entry of a directory is read the same where trees agree about it. -/
theorem SameDirectories.read_child (h : SameDirectories t t') {name : Text}
    (hl : t.locate cwd p = .ok l) (hd : t.isDirectory l = true) (hname : isFileName name = true)
    (hnode : t.node? (l ++ [name]) = t'.node? (l ++ [name])) :
    t.read cwd (p.child name) = t'.read cwd (p.child name) := by
  have hway := locate_child hl hd hname
  have hway' := locate_child (h.locate_eq_ok hl) ((h l).symm.trans hd) hname
  by_cases hlong : isTooLong (p.child name) ∨ 255 < byteCount name
  · rw [if_pos hlong] at hway hway'
    rw [Tree.read, Tree.read, hway, hway']
  · rw [if_neg hlong] at hway
    exact h.read hway hnode

end Tree

namespace CheckoutOptions

variable {o : CheckoutOptions} {w w' : Workspace}

/-- What a directory entry gives to the files of a module. -/
def readEntry (o : CheckoutOptions) (w : Workspace) (l : Location) (p : Path) (name : Text) :
    Except ModuleError (Option (Text × Text)) := do
  if ← (o.isModuleFile w.tree l p name).mapError (.file ∘ .file) then
    let text ← (o.readFile w (p.child name)).mapError .file
    pure (some (name, text))
  else pure none

theorem readFiles_eq (o : CheckoutOptions) (w : Workspace) (directory : Text) :
    o.readFiles w directory
      = ((directoryAt? w (.ofText directory)).mapError (.file ∘ .file)).bind fun
        | some l => (sort (w.tree.namesIn l)).filterMapM (o.readEntry w l (.ofText directory))
        | none => .error (.notFound directory) := rfl

/-- The location of a directory is the one that its path spells. -/
theorem directoryAt?_eq (w : Workspace) (p : Path) :
    directoryAt? w p
      = (w.hasDirectory p).map fun found => if found then some (p.resolve w.cwd) else none := by
  unfold directoryAt? Workspace.hasDirectory Tree.hasDirectory Tree.look
  cases hl : w.tree.locate w.cwd p with
  | ok l =>
      obtain rfl := Tree.eq_of_locate hl
      rfl
  | error cause => cases cause <;> rfl

/-- A directory stands where its path leads. -/
theorem locate_of_directoryAt? {p : Path} {l : Location} (h : directoryAt? w p = .ok (some l)) :
    w.tree.locate w.cwd p = .ok l ∧ w.tree.isDirectory l = true := by
  unfold directoryAt? at h
  split at h
  · next m hm =>
      have hsome := Except.ok.inj h
      split at hsome
      · next hd =>
          obtain rfl := Option.some.inj hsome
          exact ⟨hm, hd⟩
      · exact nomatch hsome
  · exact nomatch h
  · exact nomatch Except.ok.inj h

theorem directoryAt?_congr (hcwd : w.cwd = w'.cwd) (h : Tree.SameDirectories w.tree w'.tree)
    (p : Path) : directoryAt? w p = directoryAt? w' p := by
  rw [directoryAt?_eq, directoryAt?_eq, Workspace.hasDirectory, Workspace.hasDirectory, ← hcwd,
    h.hasDirectory]

variable {p : Path} {l : Location}

/-- An entry that trees agree about gives the same to the files of a module. -/
theorem readEntry_congr {keep : Text → Bool} (hcwd : w.cwd = w'.cwd)
    (hsame : Tree.SameDirectories w.tree w'.tree)
    (h : Tree.AgreesAt keep l w.tree w'.tree) (hl : directoryAt? w p = .ok (some l)) {name : Text}
    (hname : isFileName name = true) (hkeep : keep name = true) :
    o.readEntry w l p name = o.readEntry w' l p name := by
  obtain ⟨hway, hd⟩ := locate_of_directoryAt? hl
  have hread := hsame.read_child hway hd hname (h.entries name hkeep)
  have htext : ∀ e, w.readText e (p.child name) = w'.readText e (p.child name) := by
    intro e
    unfold Workspace.readText Tree.readText
    rw [← hcwd, hread]
  have hfile : o.readFile w (p.child name) = o.readFile w' (p.child name) := by
    unfold readFile
    split
    · exact htext _
    · rfl
  unfold readEntry isModuleFile
  rw [hsame (l ++ [name]), hfile]

theorem readEntry_eq_none (hshort : Tree.isTooLong (p.child name) = false)
    (haccepts : o.accepts name = false) : o.readEntry w l p name = .ok none := by
  unfold readEntry isModuleFile
  rw [hshort, haccepts, Bool.and_false]
  rfl

/-- The files of a module are the same where trees agree about its directory; what they do not agree
about must not be accepted, and a path to it must not be too long. -/
theorem readFiles_congr (keep : Text → Bool) {directory : Text} (hcwd : w.cwd = w'.cwd)
    (hsame : Tree.SameDirectories w.tree w'.tree)
    (h : ∀ l, w.tree.locate w.cwd (.ofText directory) = .ok l →
      Tree.AgreesAt keep l w.tree w'.tree)
    (hskip : ∀ name, keep name = false →
      Tree.isTooLong ((Path.ofText directory).child name) = false ∧ o.accepts name = false) :
    o.readFiles w directory = o.readFiles w' directory := by
  rw [readFiles_eq, readFiles_eq, ← directoryAt?_congr hcwd hsame]
  cases hdir : directoryAt? w (.ofText directory) with
  | error e => rfl
  | ok found =>
      cases found with
      | none => rfl
      | some l =>
          have hagrees := h l (locate_of_directoryAt? hdir).1
          show List.filterMapM _ _ = List.filterMapM _ _
          rw [← List.filterMapM_filter keep fun name _ hname =>
              readEntry_eq_none (hskip name hname).1 (hskip name hname).2,
            ← List.filterMapM_filter keep (l := sort (w'.tree.namesIn _)) fun name _ hname =>
              readEntry_eq_none (hskip name hname).1 (hskip name hname).2,
            filter_sort, filter_sort, ← hagrees.names]
          refine List.filterMapM_congr_mem fun name hname => ?_
          obtain ⟨hmem, hkeep⟩ := List.mem_filter.mp (mem_sort.mp hname)
          exact readEntry_congr hcwd hsame hagrees hdir (Tree.isFileName_of_mem_namesIn hmem) hkeep

end CheckoutOptions

namespace Checkout

variable {w w' : Workspace}

/-- The name, source and version of a module depend on the directories and on version control
only. -/
theorem moduleMeta_congr (hcwd : w.cwd = w'.cwd) (hgit : w.git = w'.git)
    (h : Tree.SameDirectories w.tree w'.tree) (c : Checkout) (directory : Text) :
    c.moduleMeta w directory = c.moduleMeta w' directory := by
  have hresolve : ∀ p, w.resolve p = w'.resolve p := by
    intro p
    unfold Workspace.resolve
    rw [hcwd]
  have htop : w.topLevel? directory = w'.topLevel? directory := by
    unfold Workspace.topLevel? Workspace.hasDirectory
    rw [hcwd, hgit, h.hasDirectory]
  have hpath : modulePath w directory = modulePath w' directory := by
    unfold modulePath
    simp only [hresolve, htop]
  have htag : c.latestTag w = c.latestTag w' := by
    unfold latestTag
    rw [hgit]
  have hrepository : c.options.repositoryName w = c.options.repositoryName w' := by
    unfold CheckoutOptions.repositoryName
    rw [hgit]
  unfold moduleMeta moduleName moduleSource
  rw [hresolve, hpath, htag, hrepository]

end Checkout

end ModuleDocs
