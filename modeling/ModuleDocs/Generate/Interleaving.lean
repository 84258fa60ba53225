import ModuleDocs.Generate.Batch

/-! # Generating READMEs side by side

    The modules of a batch are worked on in turns.  A module waits until it is
    admitted, and only as many are admitted at a time as there are permits; it
    keeps its permit until it is finished.  In between, its steps are those of
    a module on its own: reading and scanning, describing, assembling with
    what the old README holds, and writing.  All modules share the workspace
    and the parts made so far, and between two steps of one module any steps
    of the others can be taken.

    The chat service is asked for several modules at the same time, so each
    module has its own replies. -/

namespace ModuleDocs

/-- How far the work on a module has come. -/
inductive Stage where
  | waiting
  | admitted
  | scanned (c : ModuleContext)
  | described (c : ModuleContext) (d : Description) (u : UsageExamples)
  | assembled (text : Text)
  | finished (outcome : Except GenerateError Text)

namespace Stage

/-- Whether the module is between its first and its last step. -/
def isActive : Stage → Bool
  | waiting => false
  | finished _ => false
  | _ => true

/-- The outcome of a finished module. -/
def outcome? : Stage → Option (Except GenerateError Text)
  | finished outcome => some outcome
  | _ => none

/-- The next step for the module of a directory: the stage after it, and the workspace. -/
def step (dryRun : Bool) (client : ChatClient) (directory : Path) (w : Workspace) :
    Stage → Action GenerateError (Stage × Workspace)
  | admitted => do
    let c ← Generate.readModule w directory.toText
    pure (scanned c, w)
  | scanned c => do
    let (d, u) ← Generate.describe { w with chat := client } c
    pure (described c d u, w)
  | described c d u => do
    let text ← Generate.assemble w (directory.child readmeName) c d u
    pure (assembled text, w)
  | assembled text =>
    if dryRun then pure (finished (.ok text), w)
    else do
      let written ← Action.ofExcept (GenerateError.readme ∘ .file)
        (w.writeText (directory.child readmeName) text)
      pure (finished (.ok text), written)
  | stage => pure (stage, w)

/-- Takes the next step for the module of a directory; an error finishes the module. -/
def advance (dryRun : Bool) (client : ChatClient) (directory : Path) (stage : Stage) :
    Work Stage := fun s =>
  let done := (step dryRun client directory s.workspace stage).run s.components
  match done.value with
  | (.ok (stage, w), c) => ⟨(stage, ⟨w, c⟩), done.log⟩
  | (.error e, c) =>
    ⟨(finished (.error e), ⟨s.workspace, c⟩), done.log ++ [Generate.failure directory e]⟩

end Stage

/-- One module of a batch. -/
structure Job where
  directory : Path
  stage : Stage := .waiting

/-- A batch at some moment: what the modules share, the permits that are free, and the modules in
the order in which they were given. -/
structure Batch where
  session : Session
  free : Nat
  jobs : List Job
  log : List Entry := []

namespace Batch

/-- A batch before its first step. -/
def start (s : Session) (directories : List Path) : Batch where
  session := s
  free := s.components.settings.maxConcurrency.toNat
  jobs := directories.map ({ directory := · })

/-- How many modules are between their first and their last step. -/
def active (b : Batch) : Nat := b.jobs.countP (·.stage.isActive)

/-- Whether all modules are finished. -/
def isFinished (b : Batch) : Bool := b.jobs.all fun job => job.stage.outcome?.isSome

/-- The next step for one of the modules, if it can be taken: a module that waits needs a permit,
and a finished one gives its permit back. -/
def step (dryRun : Bool) (replies : Path → ChatClient) (i : Nat) (b : Batch) : Option Batch := do
  let job ← b.jobs[i]?
  match job.stage with
  | .finished _ => none
  | .waiting =>
    if b.free = 0 then none
    else
      some { b with free := b.free - 1, jobs := b.jobs.set i { job with stage := .admitted } }
  | stage =>
    let moved := stage.advance dryRun (replies job.directory) job.directory b.session
    let (stage, session) := moved.value
    some
      { session := session
        free := if stage.isActive then b.free else b.free + 1
        jobs := b.jobs.set i { job with stage := stage }
        log := b.log ++ moved.log }

/-- Takes steps for the modules of a schedule, one after the other; none when one of the steps
cannot be taken. -/
def run (dryRun : Bool) (replies : Path → ChatClient) (schedule : List Nat) (b : Batch) :
    Option Batch :=
  schedule.foldlM (fun b i => b.step dryRun replies i) b

/-- What the finished modules came to, in the order in which the modules were given. -/
def results (dryRun : Bool) (b : Batch) : List Generation :=
  b.jobs.filterMap fun job => job.stage.outcome?.map fun outcome => ⟨job.directory, dryRun, outcome⟩

end Batch

end ModuleDocs
