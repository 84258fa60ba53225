import ModuleDocs.Proofs.Generate.Outcome
import ModuleDocs.Proofs.Log

/-! # Generating READMEs one after the other

    A module that is generated after others finds its directory as it was,
    since the others have written in theirs only.  So a batch comes to what
    its modules come to each on its own, and every README holds what it holds
    when nothing else is generated. -/

namespace ModuleDocs

open Text

/-- Whether two paths do not lead to the same place. -/
def Workspace.Apart (w : Workspace) (p q : Path) : Prop :=
  ∀ l, w.tree.locate w.cwd p = .ok l → w.tree.locate w.cwd q ≠ .ok l

/-- Whether there is a README for a path in a session, and it belongs to the directory at `l`. -/
def Session.Makes (s : Session) (d : Path) (l : Location) : Prop :=
  s.workspace.tree.locate s.workspace.cwd d = .ok l ∧ ∃ text, s.outcomeOf d = .ok text

namespace Generate

variable {d : Path} {dryRun : Bool} {outcome : Except GenerateError Text}

/-- What stands in the place of a README after an outcome. -/
def readmeAfter (dryRun : Bool) (outcome : Except GenerateError Text) (before : Option Node) :
    Option Node :=
  match outcome with
  | .ok text => if dryRun then before else some (.file (utf8 text))
  | .error _ => before

/-- A module comes to its outcome.  Its README is in its place, and nothing else was written. -/
theorem one_effect (dryRun : Bool) (hd : d.IsPlain) (s : Session) :
    ∃ t components,
      components.offer s.workspace.git = s.components.offer s.workspace.git ∧
      (one dryRun d s).value
        = (⟨d, dryRun, s.outcomeOf d⟩, ⟨{ s.workspace with tree := t }, components⟩) ∧
      Tree.Rewritten readmeName (s.Makes d) s.workspace.tree t ∧
      ∀ l, s.workspace.tree.locate s.workspace.cwd d = .ok l →
        t.node? (l ++ [readmeName])
          = readmeAfter dryRun (s.outcomeOf d) (s.workspace.tree.node? (l ++ [readmeName])) := by
  obtain ⟨components, hoffer, hone⟩ := one_value dryRun hd s
  have hroom : ∀ text, s.outcomeOf d = .ok text →
      s.workspace.tree.locate s.workspace.cwd d = .ok (d.resolve s.workspace.cwd) ∧
        s.workspace.tree.HasRoom (d.resolve s.workspace.cwd ++ [readmeName]) := by
    intro text htext
    obtain ⟨hl, -, hfree⟩ := hasRoom_of_content hd htext
    exact ⟨hl, hfree⟩
  have hmakes : ∀ l text, s.workspace.tree.locate s.workspace.cwd d = .ok l →
      s.outcomeOf d = .ok text → s.Makes d l := fun l text hl htext => ⟨hl, text, htext⟩
  generalize s.outcomeOf d = outcome at hone hroom hmakes ⊢
  cases outcome with
  | error e => exact ⟨_, components, hoffer, hone, .refl _, fun _ _ => rfl⟩
  | ok text =>
      cases dryRun with
      | true => exact ⟨_, components, hoffer, hone, .refl _, fun _ _ => rfl⟩
      | false =>
          obtain ⟨hl, hfree⟩ := hroom text rfl
          refine ⟨_, components, hoffer, hone, ?_, ?_⟩
          · show Tree.Rewritten readmeName _ _ (Tree.withFile _ _ _)
            rw [Tree.withFile, dif_pos hfree]
            exact .put (.refl _) (hmakes _ text hl rfl) hfree (utf8 text)
          · intro l hl'
            obtain rfl := Tree.eq_of_locate hl'
            exact (Tree.node?_withFile hfree (utf8 text) _).trans (if_pos rfl)

/-! ## Several modules -/

/-- The first module is generated before the others. -/
theorem many_cons (dryRun : Bool) (d : Path) (ds : List Path) (s : Session) :
    (many dryRun (d :: ds) s).value
      = ((one dryRun d s).value.1 :: (many dryRun ds (one dryRun d s).value.2).value.1,
          (many dryRun ds (one dryRun d s).value.2).value.2) := by
  rw [many, List.mapM_cons]
  rfl

/-- A module that is apart from all directories that were written to comes to what it came to. -/
theorem outcomeOf_congr {dirs : Location → Prop} {s : Session} {t : Tree} {components : Components}
    (hoffer : components.offer s.workspace.git = s.components.offer s.workspace.git)
    (hwritten : Tree.Rewritten readmeName dirs s.workspace.tree t) (hd : d.IsPlain)
    (hapart : ∀ l, dirs l → s.workspace.tree.locate s.workspace.cwd d ≠ .ok l) :
    Session.outcomeOf ⟨{ s.workspace with tree := t }, components⟩ d = s.outcomeOf d := by
  have hcontent : (s.components.offer s.workspace.git).content s.workspace d (d.child readmeName)
      = (s.components.offer s.workspace.git).content { s.workspace with tree := t } d
          (d.child readmeName) := by
    refine content_congr rfl rfl rfl hwritten.sameDirectories hd ?_
    intro l hl
    exact hwritten.agreesAt fun hdl => hapart l hdl hl
  unfold Session.outcomeOf
  rw [hoffer, hcontent]

/-- Several modules that are apart come to what each comes to on its own.  The READMEs are in their
places, and nothing else was written. -/
theorem many_value (dryRun : Bool) {ds : List Path} (hplain : ∀ d ∈ ds, d.IsPlain) {s : Session}
    (hapart : ds.Pairwise s.workspace.Apart) :
    ∃ t components,
      components.offer s.workspace.git = s.components.offer s.workspace.git ∧
      (many dryRun ds s).value
        = (ds.map fun d => ⟨d, dryRun, s.outcomeOf d⟩,
            ⟨{ s.workspace with tree := t }, components⟩) ∧
      Tree.Rewritten readmeName (fun l => ∃ d ∈ ds, s.Makes d l) s.workspace.tree t ∧
      ∀ d ∈ ds, ∀ l, s.workspace.tree.locate s.workspace.cwd d = .ok l →
        t.node? (l ++ [readmeName])
          = readmeAfter dryRun (s.outcomeOf d) (s.workspace.tree.node? (l ++ [readmeName])) := by
  induction ds generalizing s with
  | nil =>
      exact ⟨s.workspace.tree, s.components, rfl, rfl, .refl _, fun d hd => nomatch hd⟩
  | cons d ds ih =>
      obtain ⟨hfirst, hrest⟩ := List.pairwise_cons.mp hapart
      have hplain' : ∀ e ∈ ds, e.IsPlain := fun e he => hplain e (List.mem_cons_of_mem d he)
      obtain ⟨t₁, components, hoffer, hone, hwritten, hreadme⟩ :=
        one_effect dryRun (hplain d List.mem_cons_self) s
      -- the others find what they would have found
      have hsame := hwritten.sameDirectories
      have hlocate : ∀ p l, t₁.locate s.workspace.cwd p = .ok l ↔
          s.workspace.tree.locate s.workspace.cwd p = .ok l :=
        fun p l => ⟨hsame.symm.locate_eq_ok, hsame.locate_eq_ok⟩
      have houtcome : ∀ e ∈ ds,
          Session.outcomeOf ⟨{ s.workspace with tree := t₁ }, components⟩ e = s.outcomeOf e :=
        fun e he => outcomeOf_congr hoffer hwritten (hplain' e he)
          fun l hl => hfirst e he l hl.1
      have hapart₁ : ds.Pairwise (Workspace.Apart { s.workspace with tree := t₁ }) := by
        refine hrest.imp fun h l hp hq => ?_
        exact h l ((hlocate _ l).mp hp) ((hlocate _ l).mp hq)
      obtain ⟨t, components', hoffer', hmany, hmore, hreadmes⟩ :=
        ih (s := ⟨{ s.workspace with tree := t₁ }, components⟩) hplain' hapart₁
      refine ⟨t, components', hoffer'.trans hoffer, ?_, ?_, ?_⟩
      · rw [many_cons, hone, hmany, List.map_cons]
        rw [List.map_congr_left fun e he => by rw [houtcome e he]]
      · refine (hwritten.mono fun l hl => ⟨d, List.mem_cons_self, hl⟩).trans (hmore.mono ?_)
        rintro l ⟨e, he, hl, text, htext⟩
        exact ⟨e, List.mem_cons_of_mem d he, (hlocate e l).mp hl, text, houtcome e he ▸ htext⟩
      · intro e he l hl
        rcases List.mem_cons.mp he with rfl | he
        · -- nothing is written there after the first module
          rw [← hreadme l hl]
          refine (hmore.node? ?_).symm
          rintro m ⟨e', he', hm, -⟩ heq
          obtain rfl := (List.append_inj' heq rfl).1
          exact hfirst e' he' l hl ((hlocate e' l).mp hm)
        · have hearlier : s.workspace.tree.node? (l ++ [readmeName])
              = t₁.node? (l ++ [readmeName]) := by
            refine hwritten.node? fun m hm heq => ?_
            obtain rfl := (List.append_inj' heq rfl).1
            exact hfirst e he l hm.1 hl
          rw [hearlier, ← houtcome e he]
          exact hreadmes e he l ((hlocate e l).mpr hl)

end Generate

end ModuleDocs
