import ModuleDocs.Generate.Interleaving
import ModuleDocs.Proofs.Generate.Sequence

/-! # Generating READMEs side by side comes to the same

    Between two steps of a module the others may have taken any steps of
    theirs.  They share everything, but a step leaves what the parts offer as
    it is, and it writes nowhere but in the directory of its module.  So a
    module that is not finished finds its directory as it was at first, and
    whatever it has found out is what it would have found out on its own.

    This is the invariant of a batch.  With it go the permits, of which there
    are as many as the free ones and the active modules together, and the
    steps left to take, of which each step takes one away. -/

namespace ModuleDocs

open Text Generate
open ModuleDocs.Action (ComesTo)

theorem Workspace.Apart.symm {w : Workspace} {p q : Path} (h : w.Apart p q) : w.Apart q p :=
  fun l hq hp => h l hp hq

/-- Whether a workspace is as good as another for the module of a directory. -/
structure Workspace.Serves (w₀ w : Workspace) (d : Path) : Prop where
  cwd : w₀.cwd = w.cwd
  git : w₀.git = w.git
  directories : Tree.SameDirectories w₀.tree w.tree
  agrees : ∀ l, w₀.tree.locate w₀.cwd d = .ok l →
    Tree.AgreesAt (fun _ => true) l w₀.tree w.tree

namespace Stage

/-- How many steps are left at most. -/
def rest : Stage → Nat
  | waiting => 5
  | admitted => 4
  | scanned _ => 3
  | described .. => 2
  | assembled _ => 1
  | finished _ => 0

/-- Whether a module has found out what it finds out on its own, in the workspace `w`. -/
def Sound (o : Offer) (w : Workspace) (d : Path) : Stage → Prop
  | waiting => True
  | admitted => True
  | scanned c => o.context w d.toText = .ok c
  | described c description usage =>
    o.context w d.toText = .ok c ∧ o.described w c = .ok (description, usage)
  | assembled text => o.content w d (d.child readmeName) = .ok text
  | finished outcome => outcome = o.content w d (d.child readmeName)

/-- An active module has a step to take. -/
theorem rest_pos {stage : Stage} (h : stage.isActive = true) : 0 < stage.rest := by
  cases stage with
  | waiting => exact nomatch h
  | finished _ => exact nomatch h
  | _ => exact Nat.succ_pos _

variable {o : Offer} {w₀ : Workspace} {d : Path} {dryRun : Bool} {s : Session}

/-- What a step comes to decides about the stage after it. -/
theorem advance_value {stage : Stage} {r : Except GenerateError (Stage × Workspace)}
    (hoffer : s.components.offer s.workspace.git = o)
    (h : ComesTo s.workspace.git o (step dryRun w₀.chat d s.workspace stage) r) :
    ∃ components, components.offer s.workspace.git = o ∧
      (advance dryRun w₀.chat d stage s).value
        = match r with
          | .ok (stage, w) => (stage, ⟨w, components⟩)
          | .error e => (finished (.error e), ⟨s.workspace, components⟩) := by
  obtain ⟨hvalue, hkept⟩ := h s.components hoffer
  generalize hrun : Action.run (step dryRun w₀.chat d s.workspace stage) s.components = done
    at hvalue hkept
  obtain ⟨⟨result, components⟩, log⟩ := done
  refine ⟨components, hkept, ?_⟩
  unfold advance
  rw [hrun]
  change result = r at hvalue
  subst hvalue
  cases result <;> rfl

/-- What a step of a module does to the batch: the module is as sound as before and nearer to its
end, and its README is written when the step is the last. -/
structure Moves (o : Offer) (w₀ : Workspace) (d : Path) (dryRun : Bool) (t : Tree)
    (before after : Stage) (t' : Tree) : Prop where
  sound : after.Sound o w₀ d
  rest : after.rest < before.rest
  begun : after ≠ waiting
  written : Tree.Rewritten readmeName
    (fun l => after.outcome?.isSome ∧ w₀.tree.locate w₀.cwd d = .ok l) t t'
  readme : ∀ outcome, after = finished outcome → ∀ l, w₀.tree.locate w₀.cwd d = .ok l →
    t'.node? (l ++ [readmeName]) = readmeAfter dryRun outcome (t.node? (l ++ [readmeName]))

/-- An error ends the work on a module and writes nothing. -/
theorem Moves.error {t : Tree} {before : Stage} {e : GenerateError}
    (h : o.content w₀ d (d.child readmeName) = .error e) (hbefore : before.isActive = true) :
    Moves o w₀ d dryRun t before (finished (.error e)) t where
  sound := h.symm
  rest := rest_pos hbefore
  begun := by simp
  written := .refl t
  readme := by
    intro outcome houtcome l _
    obtain rfl := finished.inj houtcome
    rfl

/-- A step that is not the last writes nothing. -/
theorem Moves.inside {t : Tree} {before after : Stage} (hsound : after.Sound o w₀ d)
    (hrest : after.rest < before.rest) (hafter : after.isActive = true) :
    Moves o w₀ d dryRun t before after t where
  sound := hsound
  rest := hrest
  begun := by
    rintro rfl
    exact nomatch hafter
  written := .refl t
  readme := by
    rintro outcome rfl
    exact nomatch hafter

section Steps

variable (hd : d.IsPlain) (hserves : w₀.Serves s.workspace d)
  (hoffer : s.components.offer s.workspace.git = o)

/-- Whether the step after a stage keeps the module sound. -/
def KeepsSound (o : Offer) (w₀ : Workspace) (d : Path) (dryRun : Bool) (s : Session)
    (stage : Stage) : Prop :=
  ∃ after t components, components.offer s.workspace.git = o ∧
    (advance dryRun w₀.chat d stage s).value
      = (after, ⟨{ s.workspace with tree := t }, components⟩) ∧
    Moves o w₀ d dryRun s.workspace.tree stage after t

include hd hserves hoffer

/-- Reading gives the context that reading at first gives. -/
theorem keepsSound_admitted : KeepsSound o w₀ d dryRun s admitted := by
  have hcomes : ComesTo s.workspace.git o (step dryRun w₀.chat d s.workspace admitted)
      ((o.context s.workspace d.toText).bind fun c => .ok (scanned c, s.workspace)) :=
    (comesTo_readModule d.toText).bind fun c => ComesTo.pure _
  have hcontext : o.context w₀ d.toText = o.context s.workspace d.toText :=
    context_congr hserves.cwd hserves.git hserves.directories hd hserves.agrees
      fun name hname => nomatch hname
  rw [← hcontext] at hcomes
  obtain ⟨components, hkept, hvalue⟩ := advance_value hoffer hcomes
  cases hc : o.context w₀ d.toText with
  | error e =>
      rw [hc] at hvalue
      have hfails : o.content w₀ d (d.child readmeName) = .error e := by
        rw [Offer.content, hc]
        rfl
      exact ⟨_, _, components, hkept, hvalue, .error hfails rfl⟩
  | ok c =>
      rw [hc] at hvalue
      exact ⟨_, _, components, hkept, hvalue, .inside hc (Nat.lt_succ_self 3) rfl⟩

omit hd hserves in
/-- Describing gives the description that describing at first gives. -/
theorem keepsSound_scanned {c : ModuleContext} (hc : o.context w₀ d.toText = .ok c) :
    KeepsSound o w₀ d dryRun s (scanned c) := by
  have hcomes : ComesTo s.workspace.git o (step dryRun w₀.chat d s.workspace (scanned c))
      ((o.described w₀ c).bind fun found => .ok (described c found.1 found.2, s.workspace)) :=
    (comesTo_describe (w := { s.workspace with chat := w₀.chat }) c).bind fun found =>
      ComesTo.pure _
  obtain ⟨components, hkept, hvalue⟩ := advance_value hoffer hcomes
  cases hfound : o.described w₀ c with
  | error e =>
      rw [hfound] at hvalue
      have hfails : o.content w₀ d (d.child readmeName) = .error e := by
        rw [Offer.content, hc]
        simp only [bind, Except.bind, hfound]
      exact ⟨_, _, components, hkept, hvalue, .error hfails rfl⟩
  | ok found =>
      rw [hfound] at hvalue
      exact ⟨_, _, components, hkept, hvalue, .inside ⟨hc, hfound⟩ (Nat.lt_succ_self 2) rfl⟩

/-- Assembling finds the README that was there at first. -/
theorem keepsSound_described {c : ModuleContext} {description : Description}
    {usage : UsageExamples} (hc : o.context w₀ d.toText = .ok c)
    (hfound : o.described w₀ c = .ok (description, usage)) :
    KeepsSound o w₀ d dryRun s (described c description usage) := by
  -- no other module has written the README of this one
  have hexisting : existing? w₀ (d.child readmeName)
      = existing? s.workspace (d.child readmeName) := by
    refine existing?_congr hserves.cwd hserves.directories ?_
    rw [Path.resolve_child (by decide)]
    exact (hserves.agrees _ (locate_of_context hd hc).1).entries readmeName rfl
  have hcontent : o.content w₀ d (d.child readmeName)
      = o.assembled s.workspace (d.child readmeName) c description usage := by
    rw [Offer.content, hc]
    simp only [bind, Except.bind, hfound]
    rw [Offer.assembled, Offer.assembled, hexisting]
  have hcomes : ComesTo s.workspace.git o
      (step dryRun w₀.chat d s.workspace (described c description usage))
      ((o.assembled s.workspace (d.child readmeName) c description usage).bind fun text =>
        .ok (assembled text, s.workspace)) :=
    (comesTo_assemble (d.child readmeName) c description usage).bind fun text => ComesTo.pure _
  rw [← hcontent] at hcomes
  obtain ⟨components, hkept, hvalue⟩ := advance_value hoffer hcomes
  cases htext : o.content w₀ d (d.child readmeName) with
  | error e =>
      rw [htext] at hvalue
      exact ⟨_, _, components, hkept, hvalue, .error htext rfl⟩
  | ok text =>
      rw [htext] at hvalue
      exact ⟨_, _, components, hkept, hvalue, .inside htext (Nat.lt_succ_self 1) rfl⟩

/-- Writing succeeds, since the directories are those that were there at first. -/
theorem keepsSound_assembled {text : Text}
    (htext : o.content w₀ d (d.child readmeName) = .ok text) :
    KeepsSound o w₀ d dryRun s (assembled text) := by
  cases dryRun with
  | true =>
      -- nothing is written: the files and what is shown of them stay
      have hcomes : ComesTo s.workspace.git o (step true w₀.chat d s.workspace (assembled text))
          (.ok (finished (.ok text), s.workspace)) := ComesTo.pure _
      obtain ⟨components, hkept, hvalue⟩ := advance_value hoffer hcomes
      refine ⟨_, _, components, hkept, hvalue, ?_⟩
      exact
        { sound := htext.symm
          rest := Nat.one_pos
          begun := by simp
          written := .refl _
          readme := by
            intro outcome houtcome l _
            obtain rfl := finished.inj houtcome
            rfl }
  | false =>
      -- the other modules wrote READMEs only, so there is still room at the same place
      obtain ⟨hl, hplace, hroom⟩ := hasRoom_of_content hd htext
      have hfree := hserves.directories.hasRoom hroom
      have hwrite : s.workspace.writeText (d.child readmeName) text
          = .ok { s.workspace with
              tree :=
                s.workspace.tree.withFile (d.resolve w₀.cwd ++ [readmeName]) (utf8 text) } := by
        have hthere := hserves.directories.locate_eq_ok hplace
        rw [hserves.cwd] at hthere hfree ⊢
        rw [Workspace.writeText, Tree.writeText, Tree.write_eq hthere hfree]
        rfl
      have hcomes : ComesTo s.workspace.git o (step false w₀.chat d s.workspace (assembled text))
          (((s.workspace.writeText (d.child readmeName) text).mapError
            (GenerateError.readme ∘ .file)).bind fun written =>
              .ok (finished (.ok text), written)) :=
        (ComesTo.ofExcept _ _).bind fun written => ComesTo.pure _
      rw [hwrite] at hcomes
      obtain ⟨components, hkept, hvalue⟩ := advance_value hoffer hcomes
      refine ⟨_, _, components, hkept, hvalue, ?_⟩
      exact
        { sound := htext.symm
          rest := Nat.one_pos
          begun := by simp
          written := by
            rw [Tree.withFile, dif_pos hfree]
            exact .put (.refl _) ⟨rfl, hl⟩ hfree (utf8 text)
          readme := by
            intro outcome houtcome l hl'
            obtain rfl := finished.inj houtcome
            obtain rfl := Tree.eq_of_locate hl'
            exact (Tree.node?_withFile hfree (utf8 text) _).trans (if_pos rfl) }

/-- A step of a sound module, taken in a workspace that serves it, keeps it sound. -/
theorem keepsSound_of_sound {stage : Stage} (hactive : stage.isActive = true)
    (hsound : stage.Sound o w₀ d) : KeepsSound o w₀ d dryRun s stage := by
  cases stage with
  | waiting => exact nomatch hactive
  | admitted => exact keepsSound_admitted hd hserves hoffer
  | scanned c => exact keepsSound_scanned hoffer hsound
  | described c description usage =>
      exact keepsSound_described hd hserves hoffer hsound.1 hsound.2
  | assembled text => exact keepsSound_assembled hd hserves hoffer hsound
  | finished outcome => exact nomatch hactive

end Steps

end Stage

namespace Batch

variable {dryRun : Bool} {replies : Path → ChatClient} {b b' : Batch} {i : Nat}

/-- How many steps are left at most. -/
def rest (b : Batch) : Nat := (b.jobs.map (·.stage.rest)).sum

/-- What a step does: a module that waits is admitted, or an active module takes its next step. -/
theorem step_cases (h : b.step dryRun replies i = some b') :
    ∃ before job after, b.jobs = before ++ job :: after ∧
      ((job.stage = .waiting ∧ 0 < b.free ∧
          b' = { b with
            free := b.free - 1, jobs := before ++ { job with stage := .admitted } :: after }) ∨
        (job.stage.isActive = true ∧ ∃ stage session,
          (job.stage.advance dryRun (replies job.directory) job.directory b.session).value
              = (stage, session) ∧
            b'.session = session ∧ b'.free = (if stage.isActive then b.free else b.free + 1) ∧
            b'.jobs = before ++ { job with stage := stage } :: after)) := by
  unfold step at h
  obtain ⟨job, hjob, h⟩ := Option.bind_eq_some_iff.mp h
  obtain ⟨hi, hget⟩ := List.getElem?_eq_some_iff.mp hjob
  have hsplit : b.jobs = b.jobs.take i ++ job :: b.jobs.drop (i + 1) := by
    rw [← hget, List.getElem_cons_drop, List.take_append_drop]
  -- one job changes, those before and behind it do not
  have hset : ∀ job', b.jobs.set i job' = b.jobs.take i ++ job' :: b.jobs.drop (i + 1) := by
    intro job'
    rw [List.set_eq_take_append_cons_drop, if_pos hi]
  refine ⟨b.jobs.take i, job, b.jobs.drop (i + 1), hsplit, ?_⟩
  simp only [hset] at h
  obtain ⟨directory, stage⟩ := job
  dsimp only at h
  cases stage with
  | finished outcome => exact nomatch h
  | waiting =>
      dsimp only at h
      split at h
      · exact nomatch h
      · next hfree => exact .inl ⟨rfl, Nat.pos_of_ne_zero hfree, (Option.some.inj h).symm⟩
  | _ =>
      obtain rfl := Option.some.inj h
      exact .inr ⟨rfl, _, _, rfl, rfl, rfl, rfl⟩

/-- The workspace of a module on its own. -/
def alone (s : Session) (replies : Path → ChatClient) (d : Path) : Workspace :=
  { s.workspace with chat := replies d }

/-- The invariant of a batch: the parts offer what they offered, every module has found out what it
finds out on its own, the READMEs of the finished modules are in their places and nothing else was
written, and no permit is lost. -/
structure Sound (s : Session) (directories : List Path) (dryRun : Bool)
    (replies : Path → ChatClient) (b : Batch) : Prop where
  directories : b.jobs.map (·.directory) = directories
  workspace : b.session.workspace = { s.workspace with tree := b.session.workspace.tree }
  offer : b.session.components.offer s.workspace.git = s.components.offer s.workspace.git
  stages : ∀ job ∈ b.jobs,
    job.stage.Sound (s.components.offer s.workspace.git) (alone s replies job.directory)
      job.directory
  written : Tree.Rewritten readmeName
    (fun l => ∃ job ∈ b.jobs, job.stage.outcome?.isSome ∧
      s.workspace.tree.locate s.workspace.cwd job.directory = .ok l)
    s.workspace.tree b.session.workspace.tree
  readmes : ∀ job ∈ b.jobs, ∀ outcome, job.stage = .finished outcome →
    ∀ l, s.workspace.tree.locate s.workspace.cwd job.directory = .ok l →
      b.session.workspace.tree.node? (l ++ [readmeName])
        = readmeAfter dryRun outcome (s.workspace.tree.node? (l ++ [readmeName]))
  permits : b.free + b.active = s.components.settings.maxConcurrency.toNat

variable {s : Session} {directories : List Path}

/-- The invariant holds before the first step. -/
theorem sound_start (s : Session) (directories : List Path) (dryRun : Bool)
    (replies : Path → ChatClient) : Sound s directories dryRun replies (start s directories) where
  directories := by
    rw [start, List.map_map]
    exact List.map_id _
  workspace := rfl
  offer := rfl
  stages := by
    intro job hjob
    obtain ⟨d, -, rfl⟩ := List.mem_map.mp hjob
    trivial
  written := .refl _
  readmes := by
    intro job hjob outcome hstage
    obtain ⟨d, -, rfl⟩ := List.mem_map.mp hjob
    exact nomatch hstage
  permits := by
    have hnone : (start s directories).active = 0 := by
      refine List.countP_eq_zero.mpr fun job hjob => ?_
      obtain ⟨d, -, rfl⟩ := List.mem_map.mp hjob
      exact Bool.false_ne_true
    rw [hnone]
    rfl

/-- What holds of all modules but one, and of the one that takes its place, holds of all. -/
theorem forall_mem_replace {P : Job → Prop} {before after : List Job} {job job' : Job}
    (h : ∀ j ∈ before ++ job :: after, P j) (h' : P job') :
    ∀ j ∈ before ++ job' :: after, P j := by
  intro j hj
  rcases List.mem_append.mp hj with hj | hj
  · exact h j (List.mem_append_left _ hj)
  · rcases List.mem_cons.mp hj with rfl | hj
    · exact h'
    · exact h j (List.mem_append_right _ (List.mem_cons_of_mem _ hj))

section Step

variable {before after : List Job} {job : Job}

/-- Each of the other modules leads elsewhere. -/
theorem Sound.apart (h : Sound s directories dryRun replies b)
    (hapart : directories.Pairwise s.workspace.Apart) (hjobs : b.jobs = before ++ job :: after)
    {other : Job} (hother : other ∈ before ∨ other ∈ after) :
    s.workspace.Apart other.directory job.directory := by
  rw [← h.directories, hjobs, List.map_append, List.map_cons, List.pairwise_append] at hapart
  obtain ⟨-, hafter, hbefore⟩ := hapart
  rcases hother with hother | hother
  · exact hbefore _ (List.mem_map_of_mem hother) _ List.mem_cons_self
  · exact ((List.pairwise_cons.mp hafter).1 _ (List.mem_map_of_mem hother)).symm

/-- A module that is not finished finds its directory as it was at first. -/
theorem Sound.serves (h : Sound s directories dryRun replies b)
    (hapart : directories.Pairwise s.workspace.Apart) (hjobs : b.jobs = before ++ job :: after)
    (hjob : job.stage.outcome? = none) :
    (alone s replies job.directory).Serves b.session.workspace job.directory where
  cwd := (congrArg Workspace.cwd h.workspace).symm
  git := (congrArg Workspace.git h.workspace).symm
  directories := h.written.sameDirectories
  agrees := by
    intro l hl
    refine h.written.agreesAt ?_
    rintro ⟨other, hmem, hfinished, hlocate⟩
    rw [hjobs, List.mem_append, List.mem_cons] at hmem
    rcases hmem with hmem | rfl | hmem
    · exact h.apart hapart hjobs (.inl hmem) l hlocate hl
    · rw [hjob] at hfinished
      exact nomatch hfinished
    · exact h.apart hapart hjobs (.inr hmem) l hlocate hl

/-- A finished module is not the one that takes a step, so it stays. -/
theorem mem_replace {other job' : Job} (hjobs : b.jobs = before ++ job :: after)
    (hjob : job.stage.outcome? = none) (hmem : other ∈ b.jobs)
    (hfinished : other.stage.outcome?.isSome) : other ∈ before ++ job' :: after := by
  rw [hjobs, List.mem_append, List.mem_cons] at hmem
  rw [List.mem_append, List.mem_cons]
  rcases hmem with hmem | rfl | hmem
  · exact .inl hmem
  · rw [hjob] at hfinished
    exact nomatch hfinished
  · exact .inr (.inr hmem)

/-- The active modules are counted one by one. -/
theorem countP_isActive (before after : List Job) (job : Job) :
    (before ++ job :: after).countP (·.stage.isActive)
      = before.countP (·.stage.isActive)
        + (after.countP (·.stage.isActive) + if job.stage.isActive then 1 else 0) := by
  rw [List.countP_append, List.countP_cons]

/-- Admitting a module keeps the invariant. -/
theorem Sound.admitted (h : Sound s directories dryRun replies b)
    (hjobs : b.jobs = before ++ job :: after) (hstage : job.stage = .waiting) (hfree : 0 < b.free) :
    Sound s directories dryRun replies
      { b with
        free := b.free - 1
        jobs := before ++ { job with stage := .admitted } :: after } where
  directories := by
    rw [← h.directories, hjobs, List.map_append, List.map_append, List.map_cons, List.map_cons]
  workspace := h.workspace
  offer := h.offer
  stages := forall_mem_replace (hjobs ▸ h.stages) trivial
  written := by
    refine h.written.mono ?_
    rintro l ⟨other, hmem, hfinished, hl⟩
    exact ⟨other, mem_replace hjobs (by rw [hstage]; rfl) hmem hfinished, hfinished, hl⟩
  readmes := forall_mem_replace (hjobs ▸ h.readmes) fun outcome houtcome => nomatch houtcome
  permits := by
    have hpermits := h.permits
    rw [active, hjobs, countP_isActive, hstage] at hpermits
    rw [active, countP_isActive]
    simp only [Stage.isActive, Bool.false_eq_true, if_false, if_true] at hpermits ⊢
    omega

/-- A step of an active module keeps the invariant. -/
theorem Sound.advance (h : Sound s directories dryRun replies b)
    (hplain : ∀ d ∈ directories, d.IsPlain) (hapart : directories.Pairwise s.workspace.Apart)
    (hjobs : b.jobs = before ++ job :: after) (hactive : job.stage.isActive = true)
    {stage : Stage} {session : Session}
    (hvalue : (job.stage.advance dryRun (replies job.directory) job.directory b.session).value
      = (stage, session))
    (hsession : b'.session = session)
    (hfree : b'.free = if stage.isActive then b.free else b.free + 1)
    (hjobs' : b'.jobs = before ++ { job with stage := stage } :: after) :
    Sound s directories dryRun replies b' ∧ stage.rest < job.stage.rest := by
  have hmem : job ∈ b.jobs := by
    rw [hjobs]
    exact List.mem_append_right _ List.mem_cons_self
  have hunfinished : job.stage.outcome? = none := by
    cases hstage : job.stage with
    | finished outcome =>
        rw [hstage] at hactive
        exact nomatch hactive
    | _ => rfl
  have hd : job.directory.IsPlain :=
    hplain _ (h.directories ▸ List.mem_map_of_mem hmem)
  have hserves := h.serves hapart hjobs hunfinished
  have hoffer : b.session.components.offer b.session.workspace.git
      = s.components.offer s.workspace.git := by
    rw [← hserves.git]
    exact h.offer
  have hkeeps : Stage.KeepsSound _ _ _ dryRun _ _ :=
    Stage.keepsSound_of_sound hd hserves hoffer hactive (h.stages job hmem)
  obtain ⟨next, t, components, hkept, hadvance, hmoves⟩ := hkeeps
  obtain ⟨rfl, rfl⟩ := Prod.mk.inj (hvalue.symm.trans hadvance)
  refine ⟨?_, hmoves.rest⟩
  exact
    { directories := by
        rw [← h.directories, hjobs, hjobs', List.map_append, List.map_append, List.map_cons,
          List.map_cons]
      workspace := by
        rw [hsession, h.workspace]
      offer := by
        have hgit : s.workspace.git = b.session.workspace.git := hserves.git
        rw [hsession]
        exact (congrArg (Components.offer · components) hgit).trans hkept
      stages := by
        rw [hjobs']
        exact forall_mem_replace (hjobs ▸ h.stages) hmoves.sound
      written := by
        rw [hsession]
        refine (h.written.mono ?_).trans (hmoves.written.mono ?_)
        · rintro l ⟨other, hother, hfinished, hl⟩
          exact ⟨other, hjobs' ▸ mem_replace hjobs hunfinished hother hfinished, hfinished, hl⟩
        · rintro l ⟨hfinished, hl⟩
          refine ⟨{ job with stage := stage }, ?_, hfinished, hl⟩
          rw [hjobs']
          exact List.mem_append_right _ List.mem_cons_self
      readmes := by
        rw [hjobs', hsession]
        -- the others are apart from what was written, and the module itself finds what was there
        have hothers : ∀ other, other ∈ before ∨ other ∈ after → ∀ outcome,
            other.stage = .finished outcome → ∀ l,
            s.workspace.tree.locate s.workspace.cwd other.directory = .ok l →
            t.node? (l ++ [readmeName])
              = readmeAfter dryRun outcome (s.workspace.tree.node? (l ++ [readmeName])) := by
          intro other hother outcome houtcome l hl
          have hthere : other ∈ b.jobs := by
            rw [hjobs, List.mem_append, List.mem_cons]
            exact hother.imp_right .inr
          rw [← h.readmes other hthere outcome houtcome l hl]
          refine (hmoves.written.node? ?_).symm
          rintro m ⟨-, hm⟩ heq
          obtain rfl := (List.append_inj' heq rfl).1
          exact h.apart hapart hjobs hother l hl hm
        intro other hother outcome houtcome l hl
        rcases List.mem_append.mp hother with hother | hother
        · exact hothers other (.inl hother) outcome houtcome l hl
        · rcases List.mem_cons.mp hother with rfl | hother
          · have hfound : s.workspace.tree.node? (l ++ [readmeName])
                = b.session.workspace.tree.node? (l ++ [readmeName]) :=
              (hserves.agrees l hl).entries readmeName rfl
            rw [hfound]
            exact hmoves.readme outcome houtcome l hl
          · exact hothers other (.inr hother) outcome houtcome l hl
      permits := by
        have hpermits := h.permits
        rw [active, hjobs, countP_isActive, if_pos hactive] at hpermits
        rw [active, hjobs', countP_isActive, hfree]
        split <;> omega }

/-- A step keeps the invariant, and there is one step less to take. -/
theorem Sound.step (h : Sound s directories dryRun replies b)
    (hplain : ∀ d ∈ directories, d.IsPlain) (hapart : directories.Pairwise s.workspace.Apart)
    (hstep : b.step dryRun replies i = some b') :
    Sound s directories dryRun replies b' ∧ b'.rest < b.rest := by
  have hrest : ∀ {jobs before after : List Job} {job job' : Job}, jobs = before ++ job :: after →
      job'.stage.rest < job.stage.rest →
      ((before ++ job' :: after).map (·.stage.rest)).sum < (jobs.map (·.stage.rest)).sum := by
    rintro jobs before after job job' rfl hlt
    simp only [List.map_append, List.map_cons, List.sum_append, List.sum_cons]
    omega
  obtain ⟨before, job, after, hjobs, hcases⟩ := step_cases hstep
  rcases hcases with ⟨hstage, hfree, rfl⟩ |
    ⟨hactive, stage, session, hvalue, hsession, hfree, hjobs'⟩
  · refine ⟨h.admitted hjobs hstage hfree, hrest hjobs ?_⟩
    rw [hstage]
    exact Nat.lt_succ_self 4
  · obtain ⟨hsound, hlt⟩ :=
      h.advance hplain hapart hjobs hactive hvalue hsession hfree hjobs'
    refine ⟨hsound, ?_⟩
    rw [rest, rest, hjobs']
    exact hrest hjobs hlt

/-- A run keeps the invariant, and takes no more steps than there were left. -/
theorem Sound.run (hplain : ∀ d ∈ directories, d.IsPlain)
    (hapart : directories.Pairwise s.workspace.Apart) {schedule : List Nat}
    (h : Sound s directories dryRun replies b) (hrun : b.run dryRun replies schedule = some b') :
    Sound s directories dryRun replies b' ∧ schedule.length + b'.rest ≤ b.rest := by
  induction schedule generalizing b with
  | nil =>
      obtain rfl := Option.some.inj hrun
      exact ⟨h, Nat.le_of_eq (Nat.zero_add _)⟩
  | cons i schedule ih =>
      obtain ⟨next, hstep, hrun⟩ := Option.bind_eq_some_iff.mp hrun
      obtain ⟨hnext, hlt⟩ := h.step hplain hapart hstep
      obtain ⟨hsound, hle⟩ := ih hnext hrun
      refine ⟨hsound, ?_⟩
      rw [List.length_cons]
      omega

end Step

/-- An active module can take its next step, and a module that waits can be admitted as long as a
permit is free. -/
theorem isSome_step {job : Job} (hjob : b.jobs[i]? = some job)
    (h : job.stage.isActive = true ∨ job.stage = .waiting ∧ 0 < b.free) :
    (b.step dryRun replies i).isSome := by
  obtain ⟨directory, stage⟩ := job
  unfold step
  rw [hjob]
  rcases h with hactive | ⟨hwaiting, hfree⟩
  · cases stage with
    | waiting => exact nomatch hactive
    | finished outcome => exact nomatch hactive
    | _ => rfl
  · obtain rfl : stage = .waiting := hwaiting
    have hne : b.free ≠ 0 := Nat.ne_of_gt hfree
    show Option.isSome (if b.free = 0 then none else _) = true
    rw [if_neg hne]
    rfl

/-- As long as some module is not finished and there are permits at all, a step can be taken. -/
theorem Sound.exists_step (h : Sound s directories dryRun replies b)
    (hmax : 1 ≤ s.components.settings.maxConcurrency) (hunfinished : b.isFinished = false) :
    ∃ i, (b.step dryRun replies i).isSome := by
  by_cases hactive : ∃ job ∈ b.jobs, job.stage.isActive = true
  · obtain ⟨job, hmem, hactive⟩ := hactive
    obtain ⟨i, hi⟩ := List.mem_iff_getElem?.mp hmem
    exact ⟨i, isSome_step hi (.inl hactive)⟩
  · -- no permit is in use, and a module that is neither active nor finished waits for one
    have hnone : b.active = 0 := by
      refine List.countP_eq_zero.mpr fun job hmem hjob => hactive ⟨job, hmem, hjob⟩
    have hfree : 0 < b.free := by
      have hpermits := h.permits
      omega
    obtain ⟨job, hmem, hjob⟩ := List.all_eq_false.mp hunfinished
    obtain ⟨i, hi⟩ := List.mem_iff_getElem?.mp hmem
    refine ⟨i, isSome_step hi (.inr ⟨?_, hfree⟩)⟩
    cases hstage : job.stage with
    | waiting => rfl
    | finished outcome =>
        rw [hstage] at hjob
        exact absurd rfl hjob
    | _ => exact absurd ⟨job, hmem, by rw [hstage]; rfl⟩ hactive

/-- When all modules are finished, each has its outcome on its own. -/
theorem Sound.finished (h : Sound s directories dryRun replies b) (hfinished : b.isFinished = true)
    {job : Job} (hmem : job ∈ b.jobs) :
    job.stage = .finished
      ((Session.mk (alone s replies job.directory) s.components).outcomeOf job.directory) := by
  have hend := List.all_eq_true.mp hfinished job hmem
  have hsound := h.stages job hmem
  cases hstage : job.stage with
  | finished outcome =>
      rw [hstage] at hsound
      exact congrArg Stage.finished hsound
  | _ =>
      rw [hstage] at hend
      exact nomatch hend

/-- When all modules are finished, there is a result for each. -/
theorem Sound.results (h : Sound s directories dryRun replies b) (hfinished : b.isFinished = true) :
    b.results dryRun = directories.map fun d =>
      ⟨d, dryRun, (Session.mk (alone s replies d) s.components).outcomeOf d⟩ := by
  rw [Batch.results, ← h.directories, List.map_map, ← List.filterMap_eq_map]
  refine List.filterMap_congr fun job hmem => ?_
  rw [h.finished hfinished hmem]
  rfl

/-- When all modules are finished, the README of each is in its place. -/
theorem Sound.readme (h : Sound s directories dryRun replies b) (hfinished : b.isFinished = true)
    {d : Path} (hd : d ∈ directories) {l : Location}
    (hl : s.workspace.tree.locate s.workspace.cwd d = .ok l) :
    b.session.workspace.tree.node? (l ++ [readmeName])
      = readmeAfter dryRun ((Session.mk (alone s replies d) s.components).outcomeOf d)
          (s.workspace.tree.node? (l ++ [readmeName])) := by
  rw [← h.directories] at hd
  obtain ⟨job, hmem, rfl⟩ := List.mem_map.mp hd
  exact h.readmes job hmem _ (h.finished hfinished hmem) l hl

/-- A batch has five steps to take for each of its modules. -/
theorem rest_start (s : Session) (directories : List Path) :
    (start s directories).rest = 5 * directories.length := by
  rw [rest, start, List.map_map]
  induction directories with
  | nil => rfl
  | cons d ds ih =>
      rw [List.map_cons, List.sum_cons, ih, List.length_cons]
      show 5 + _ = _
      omega

/-- Whatever the order in which the modules of a batch take their steps: never more of them are
active than there are permits, steps can be taken until all are finished, and no more than five for
each.  Then there is one result for each module, in the order in which they were given, and the
results and the READMEs are those of the modules generated each on its own from what was there at
first, whichever of them fail.  Nothing but the READMEs was written at any time. -/
theorem run_interleaved (s : Session) (directories : List Text) (dryRun : Bool)
    (replies : Path → ChatClient)
    (hapart : (directories.map Path.ofText).Pairwise s.workspace.Apart)
    (hmax : 1 ≤ s.components.settings.maxConcurrency) (schedule : List Nat) (b : Batch)
    (hrun : (start s (directories.map Path.ofText)).run dryRun replies schedule = some b) :
    (b.active : Int) ≤ s.components.settings.maxConcurrency ∧
    (b.isFinished = false → ∃ i, (b.step dryRun replies i).isSome) ∧
    schedule.length ≤ 5 * directories.length ∧
    (b.isFinished = true →
      b.results dryRun = (directories.map Path.ofText).map (fun d =>
        (one dryRun d ⟨alone s replies d, s.components⟩).value.1) ∧
      ∀ d ∈ directories.map Path.ofText, ∀ l,
        s.workspace.tree.locate s.workspace.cwd d = .ok l →
        b.session.workspace.tree.node? (l ++ [readmeName])
          = (one dryRun d ⟨alone s replies d, s.components⟩).value.2.workspace.tree.node?
              (l ++ [readmeName])) ∧
    ∀ k, (∀ d ∈ directories.map Path.ofText, ∀ l,
        s.workspace.tree.locate s.workspace.cwd d = .ok l → k ≠ l ++ [readmeName]) →
      b.session.workspace.tree.node? k = s.workspace.tree.node? k := by
  have hplain : ∀ d ∈ directories.map Path.ofText, d.IsPlain := by
    intro d hd
    obtain ⟨t, -, rfl⟩ := List.mem_map.mp hd
    exact Path.isPlain_ofText t
  -- all that is claimed is read off the invariant of the batch
  obtain ⟨hsound, hlength⟩ :=
    (sound_start s (directories.map Path.ofText) dryRun replies).run hplain hapart hrun
  refine ⟨?_, hsound.exists_step hmax, ?_, fun hfinished => ⟨?_, ?_⟩, ?_⟩
  · have hpermits := hsound.permits
    omega
  · rw [rest_start, List.length_map] at hlength
    omega
  · rw [hsound.results hfinished]
    refine List.map_congr_left fun d hd => ?_
    obtain ⟨_, -, hone⟩ := one_value dryRun (hplain d hd) ⟨alone s replies d, s.components⟩
    rw [hone]
  · intro d hd l hl
    obtain ⟨t, _, -, hone, -, hreadme⟩ :=
      one_effect dryRun (hplain d hd) ⟨alone s replies d, s.components⟩
    rw [hsound.readme hfinished hd hl, hone]
    exact (hreadme l hl).symm
  · intro k hk
    refine (hsound.written.node? ?_).symm
    rintro l ⟨job, hmem, -, hl⟩
    exact hk job.directory (hsound.directories ▸ List.mem_map_of_mem hmem) l hl

/-- Two modules take their steps in turns, and one of them fails: the results are those of each on
its own. -/
theorem run_interleaved_store :
    ∃ b, (start storeSession [.ofText "store", .ofText "shop"]).run false (fun _ _ => .noChoices)
          [0, 1, 0, 1, 0, 0, 0] = some b ∧
      b.isFinished = true ∧
      b.results false
        = [(one false (.ofText "store") storeSession).value.1,
            (one false (.ofText "shop") storeSession).value.1] := by
  have hends : ((start storeSession [.ofText "store", .ofText "shop"]).run false
      (fun _ _ => .noChoices) [0, 1, 0, 1, 0, 0, 0]).any (·.isFinished) = true := by
    decide +kernel
  obtain ⟨b, hrun, hfinished⟩ := (Option.any_eq_true _ _).mp hends
  have hapart : (([("store" : Text), "shop"]).map Path.ofText).Pairwise
      storeSession.workspace.Apart := by
    refine List.pairwise_pair.mpr fun l hstore hshop => ?_
    have hsame := (Tree.eq_of_locate hstore).symm.trans (Tree.eq_of_locate hshop)
    exact absurd hsame (by decide)
  obtain ⟨-, -, -, hresults, -⟩ := run_interleaved storeSession ["store", "shop"] false
    (fun _ _ => .noChoices) hapart (by decide) _ b hrun
  exact ⟨b, hrun, hfinished, (hresults hfinished).1⟩

/-- Side by side the modules come to what they come to one after the other, and leave the same
behind. -/
theorem run_eq_many (s : Session) {directories : List Path} {dryRun : Bool}
    (hplain : ∀ d ∈ directories, d.IsPlain) (hapart : directories.Pairwise s.workspace.Apart)
    {schedule : List Nat} {b : Batch}
    (hrun : (start s directories).run dryRun (fun _ => s.workspace.chat) schedule = some b)
    (hfinished : b.isFinished = true) :
    b.results dryRun = (many dryRun directories s).value.1 ∧
      ∀ k, b.session.workspace.tree.node? k
        = (many dryRun directories s).value.2.workspace.tree.node? k := by
  obtain ⟨hsound, -⟩ := (sound_start s directories dryRun _).run hplain hapart hrun
  obtain ⟨t, components, -, hmany, hwritten, hreadmes⟩ := many_value dryRun hplain hapart
  rw [hmany]
  refine ⟨hsound.results hfinished, fun k => ?_⟩
  by_cases hk : ∃ d ∈ directories, ∃ l,
      s.workspace.tree.locate s.workspace.cwd d = .ok l ∧ k = l ++ [readmeName]
  · obtain ⟨d, hd, l, hl, rfl⟩ := hk
    rw [hsound.readme hfinished hd hl]
    exact (hreadmes d hd l hl).symm
  · have hother : ∀ d ∈ directories, ∀ l, s.workspace.tree.locate s.workspace.cwd d = .ok l →
        k ≠ l ++ [readmeName] := fun d hd l hl heq => hk ⟨d, hd, l, hl, heq⟩
    refine (hsound.written.node? ?_).symm.trans (hwritten.node? ?_)
    · rintro l ⟨job, hmem, -, hl⟩
      exact hother job.directory (hsound.directories ▸ List.mem_map_of_mem hmem) l hl
    · rintro l ⟨d, hd, hl, -⟩
      exact hother d hd l hl

end Batch

end ModuleDocs
