import ModuleDocs.Generate.Context

/-! # What the parts of a run offer

    The parts of a run are made when they are first asked for and then kept,
    and the checkout learns its tag on the way.  What a module gets from them
    is the same before and after: the parts that are there are those that
    would be made.  So the steps for one module leave what the others are
    offered as it is, whether they succeed or fail, and their own results
    depend on the offer only, not on which parts have been made. -/

namespace ModuleDocs

/-- The checkout with its latest tag, as version control tells it. -/
def Checkout.known (git : Git) (c : Checkout) : Checkout :=
  { c with tag := some (c.tag.getD ((git.answer? .latestTag).getD c.options.defaultTag)) }

/-- What a module gets from the parts of a run. -/
structure Offer where
  policy : DuplicatePolicy
  scanner : Except ComponentError Hcl.BraceMode
  describer : Except ComponentError Describer
  /-- The checkout, its tag known. -/
  checkout : Checkout
  /-- The layout of the examples. -/
  layout : UsageStyle
  /-- The layout of the README. -/
  assembler : UsageStyle

namespace Components

/-- What the parts offer: those that are kept, or else those that would be made. -/
def offer (git : Git) (c : Components) : Offer where
  policy := c.settings.duplicatePolicy
  scanner :=
    c.scanner.elim (newScanner c.settings (kindOf none c.settings.scannerType)) fun kept =>
      .ok kept.value
  describer :=
    c.describer.elim (newDescriber c.settings (kindOf none c.settings.describerType)).value
      fun kept => .ok kept.value
  checkout := (c.checkout.elim ⟨checkoutOptions c.settings, none⟩ (·.value)).known git
  layout := c.layout.elim {} (·.value)
  assembler := c.assembler.elim (c.layout.elim {} (·.value)) (·.value.value)

variable {git : Git} {c c' : Components}

/-- The scanner that is asked for is the one that is offered, and it is so afterwards. -/
theorem getScanner_cases (git : Git) (c : Components) :
    (∃ kept c', c.getScanner none = .ok (kept, c') ∧ (c.offer git).scanner = .ok kept.value ∧
        c'.offer git = c.offer git) ∨
      ∃ e, c.getScanner none = .error e ∧ (c.offer git).scanner = .error e := by
  obtain ⟨settings, made, scanner, describer, checkout, layout, assembler⟩ := c
  cases scanner with
  | some kept => exact .inl ⟨kept, _, rfl, rfl, rfl⟩
  | none =>
      unfold getScanner offer
      dsimp only [Option.elim]
      cases newScanner settings (kindOf none settings.scannerType) with
      | ok mode => exact .inl ⟨_, _, rfl, rfl, rfl⟩
      | error e => exact .inr ⟨e, rfl, rfl⟩

/-- The describer that is asked for is the one that is offered, and it is so afterwards. -/
theorem getDescriber_cases (git : Git) (c : Components) :
    (∃ kept c', (c.getDescriber none).value = .ok (kept, c') ∧
        (c.offer git).describer = .ok kept.value ∧ c'.offer git = c.offer git) ∨
      ∃ e, (c.getDescriber none).value = .error e ∧ (c.offer git).describer = .error e := by
  obtain ⟨settings, made, scanner, describer, checkout, layout, assembler⟩ := c
  cases describer with
  | some kept => exact .inl ⟨kept, _, rfl, rfl, rfl⟩
  | none =>
      have hask :
          (getDescriber ⟨settings, made, scanner, none, checkout, layout, assembler⟩ none).value
          = (newDescriber settings (kindOf none settings.describerType)).value.map fun describer =>
            (⟨made, describer⟩,
              ⟨settings, made + 1, scanner, some ⟨made, describer⟩, checkout, layout,
                assembler⟩) := rfl
      rw [hask]
      unfold offer
      dsimp only [Option.elim]
      cases (newDescriber settings (kindOf none settings.describerType)).value with
      | ok new => exact .inl ⟨_, _, rfl, rfl, rfl⟩
      | error e => exact .inr ⟨e, rfl, rfl⟩

/-- The checkout that is asked for is the one that is offered, once it knows its tag. -/
theorem getCheckout_known (git : Git) (c : Components) :
    c.getCheckout.1.value.known git = (c.offer git).checkout := by
  unfold getCheckout offer
  cases c.checkout <;> rfl

/-- A checkout that was asked for is still the one that is offered. -/
theorem offer_getCheckout (git : Git) (c : Components) :
    c.getCheckout.2.offer git = c.offer git := by
  unfold getCheckout offer
  cases hkept : c.checkout <;> simp [hkept]

/-- A checkout that has learned its tag is still the one that is offered. -/
theorem offer_putCheckout {checkout : Instance Checkout}
    (h : checkout.value.known git = (c.offer git).checkout) :
    (c.putCheckout checkout).offer git = c.offer git := by
  have hoffer : (c.putCheckout checkout).offer git
      = { c.offer git with checkout := checkout.value.known git } := rfl
  rw [hoffer, h]

/-- The layout that is asked for is the one that is offered. -/
theorem getLayout_value (git : Git) (c : Components) :
    c.getLayout.1.value = (c.offer git).layout := by
  unfold getLayout offer
  cases c.layout <;> rfl

/-- A layout that was asked for is still the one that is offered. -/
theorem offer_getLayout (git : Git) (c : Components) : c.getLayout.2.offer git = c.offer git := by
  unfold getLayout offer
  cases hkept : c.layout <;> simp [hkept]

/-- The assembler that is asked for is the one that is offered. -/
theorem getAssembler_value (git : Git) (c : Components) :
    c.getAssembler.1.value.value = (c.offer git).assembler := by
  unfold getAssembler getLayout offer
  cases c.assembler <;> cases c.layout <;> rfl

/-- An assembler that was asked for is still the one that is offered. -/
theorem offer_getAssembler (git : Git) (c : Components) :
    c.getAssembler.2.offer git = c.offer git := by
  unfold getAssembler getLayout offer
  cases hkept : c.assembler <;> cases hlayout : c.layout <;> simp [hkept, hlayout]

end Components

namespace Action

variable {git : Git} {o : Offer} {ε ε' α β : Type}

/-- Whether a step comes to a result whenever the parts offer `o`, and whether they offer it after
the step as well. -/
def ComesTo (git : Git) (o : Offer) (x : Action ε α) (r : Except ε α) : Prop :=
  ∀ c, c.offer git = o → (run x c).value.1 = r ∧ (run x c).value.2.offer git = o

/-- One step after the other: the second is left out when the first fails. -/
theorem run_bind (x : Action ε α) (y : α → Action ε β) (c : Components) :
    run (x >>= y) c = run x c >>= fun r =>
      match r with
      | (.ok a, c) => run (y a) c
      | (.error e, c) => pure (.error e, c) := by
  unfold run
  rw [ExceptT.run_bind, StateT.run_bind]
  refine bind_congr fun r => ?_
  obtain ⟨r, c⟩ := r
  cases r <;> rfl

namespace ComesTo

theorem pure (a : α) : ComesTo git o (pure a : Action ε α) (.ok a) := fun _ hc => ⟨rfl, hc⟩

theorem bind {x : Action ε α} {y : α → Action ε β} {r : Except ε α} {g : α → Except ε β}
    (hx : ComesTo git o x r) (hy : ∀ a, ComesTo git o (y a) (g a)) :
    ComesTo git o (x >>= y) (r.bind g) := by
  intro c hc
  obtain ⟨hvalue, hkept⟩ := hx c hc
  rw [run_bind, Logged.value_bind, ← hvalue]
  generalize (run x c).value = r at hkept ⊢
  obtain ⟨r, c'⟩ := r
  cases r with
  | error e => exact ⟨rfl, hkept⟩
  | ok a => exact hy a c' hkept

theorem adapt {x : Action ε' α} {r : Except ε' α} (cause : ε' → ε) (hx : ComesTo git o x r) :
    ComesTo git o (ExceptT.adapt cause x) (r.mapError cause) := by
  intro c hc
  obtain ⟨hvalue, hkept⟩ := hx c hc
  have hrun : (run (ExceptT.adapt cause x) c).value
      = ((run x c).value.1.mapError cause, (run x c).value.2) := rfl
  rw [hrun, hvalue]
  exact ⟨rfl, hkept⟩

theorem ofLogged (x : Logged α) :
    ComesTo git o (Action.ofLogged x : Action ε α) (.ok x.value) := fun _ hc => ⟨rfl, hc⟩

theorem ofExcept (cause : ε' → ε) (x : Except ε' α) :
    ComesTo git o (Action.ofExcept cause x) (x.mapError cause) := fun _ hc => ⟨rfl, hc⟩

theorem ofResult (cause : ε' → ε) (x : Logged (Except ε' α)) :
    ComesTo git o (Action.ofResult cause x) (x.value.mapError cause) := fun _ hc => ⟨rfl, hc⟩

/-- What follows a look at the parts may depend on all of them, as long as it comes to the same. -/
theorem get {y : Components → Action ε β} {r : Except ε β}
    (hy : ∀ c, c.offer git = o → ComesTo git o (y c) r) : ComesTo git o (get >>= y) r :=
  fun c hc => hy c hc c hc

/-- What follows the making of a part may depend on the instance, as long as it comes to the
same. -/
theorem ofParts {f : Components → α × Components} {y : α → Action ε β} {r : Except ε β}
    (hkept : ∀ c, (f c).2.offer git = c.offer git)
    (hy : ∀ c, c.offer git = o → ComesTo git o (y (f c).1) r) :
    ComesTo git o (Action.ofParts f >>= y) r :=
  fun c hc => hy c hc (f c).2 ((hkept c).trans hc)

/-- What follows a change to the parts comes to what it came to, as long as they offer the same. -/
theorem modify {f : Components → Components} {y : Action ε β} {r : Except ε β}
    (hkept : ∀ c, c.offer git = o → (f c).offer git = o) (hy : ComesTo git o y r) :
    ComesTo git o (modify f >>= fun _ => y) r :=
  fun c hc => hy (f c) (hkept c hc)

/-- Asking for the scanner comes to the one that is offered. -/
theorem scanner : ComesTo git o Action.scanner o.scanner := by
  intro c hc
  subst hc
  have hrun : run Action.scanner c
      = run (Action.ofExcept id (c.getScanner none) >>= fun found => do
          set found.2
          Pure.pure found.1.value) c := rfl
  rw [hrun]
  rcases c.getScanner_cases git with ⟨kept, c', hask, hoffer, hkept⟩ | ⟨e, hask, hoffer⟩
  · rw [hask, hoffer]
    exact ⟨rfl, hkept⟩
  · rw [hask, hoffer]
    exact ⟨rfl, rfl⟩

/-- Asking for the describer comes to the one that is offered. -/
theorem describer : ComesTo git o Action.describer o.describer := by
  intro c hc
  subst hc
  have hrun : run Action.describer c
      = run (Action.ofResult id (c.getDescriber none) >>= fun found => do
          set found.2
          Pure.pure found.1.value) c := rfl
  have hasked : (run (Action.ofResult id (c.getDescriber none)) c).value
      = ((c.getDescriber none).value.mapError id, c) := rfl
  rw [hrun, run_bind, Logged.value_bind, hasked]
  rcases c.getDescriber_cases git with ⟨kept, c', hask, hoffer, hkept⟩ | ⟨e, hask, hoffer⟩
  · rw [hask, hoffer]
    exact ⟨rfl, hkept⟩
  · rw [hask, hoffer]
    exact ⟨rfl, rfl⟩

end ComesTo

end Action

/-! ## The steps for one module -/

namespace Offer

variable (o : Offer) (w : Workspace)

/-- The context of the module of a directory, as a function of what is offered. -/
def context (directory : Text) : Except GenerateError ModuleContext := do
  let files ← (o.checkout.options.readFiles w directory).mapError .module
  let info ← (o.checkout.moduleMeta w directory).mapError (.module ∘ .file ∘ .file)
  let mode ← o.scanner.mapError .component
  (ModuleContext.build mode o.policy info files).value.mapError .duplicates

/-- The description and the examples of a module, as a function of what is offered. -/
def described (c : ModuleContext) : Except GenerateError (Description × UsageExamples) := do
  let describer ← o.describer.mapError .component
  let description ← (describer.describe w.chat c).value.mapError .describer
  pure (description, (UsageExamples.synthesize o.layout c description.groups).value)

/-- The README of a module, as a function of what is offered. -/
def assembled (readme : Path) (c : ModuleContext) (d : Description) (u : UsageExamples) :
    Except GenerateError Text := do
  let existing ← (Generate.existing? w readme).mapError .readme
  pure (Readme.assemble o.assembler c d u existing)

/-- The text of the README of a module, as a function of what is offered. -/
def content (directory readme : Path) : Except GenerateError Text := do
  let context ← o.context w directory.toText
  let (description, usage) ← o.described w context
  o.assembled w readme context description usage

end Offer

namespace Generate

open ModuleDocs.Action (ComesTo)

variable {o : Offer} {w : Workspace}

/-- A tag that is known is the one that version control would tell. -/
theorem moduleMeta_known (w : Workspace) (checkout : Checkout) (directory : Text) :
    checkout.moduleMeta w directory = (checkout.known w.git).moduleMeta w directory := rfl

/-- Scanning the files of a module comes to their context. -/
theorem comesTo_contextOf (git : Git) (info : ModuleMeta) (files : List (Text × Text)) :
    ComesTo git o (contextOf info files)
      ((o.scanner.mapError GenerateError.component).bind fun mode =>
        (ModuleContext.build mode o.policy info files).value.mapError .duplicates) := by
  refine (ComesTo.scanner.adapt GenerateError.component).bind fun mode => ?_
  refine ComesTo.get fun c hc => ?_
  have hpolicy : c.settings.duplicatePolicy = o.policy := by
    rw [← hc]
    rfl
  show ComesTo git o (Action.ofResult GenerateError.duplicates
    (ModuleContext.build mode c.settings.duplicatePolicy info files)) _
  rw [hpolicy]
  exact ComesTo.ofResult _ _

/-- Reading a module comes to its context. -/
theorem comesTo_readModule (directory : Text) :
    ComesTo w.git o (readModule w directory) (o.context w directory) := by
  refine ComesTo.ofParts (Components.offer_getCheckout w.git) fun c hc => ?_
  have hknown : c.getCheckout.1.value.known w.git = o.checkout := hc ▸ c.getCheckout_known w.git
  have hoptions : c.getCheckout.1.value.options = o.checkout.options := by rw [← hknown]; rfl
  rw [hoptions, moduleMeta_known, hknown]
  refine (ComesTo.ofExcept GenerateError.module _).bind fun files => ?_
  refine (ComesTo.ofExcept (GenerateError.module ∘ .file ∘ .file) _).bind fun info => ?_
  refine ComesTo.modify (fun c' hc' => ?_) ?_
  · have hsame : (c.getCheckout.1.value.withTag w).known w.git = (c'.offer w.git).checkout := by
      rw [hc', ← hknown]
      rfl
    exact (Components.offer_putCheckout hsame).trans hc'
  · exact comesTo_contextOf w.git info files

/-- Describing a module comes to its description and its examples. -/
theorem comesTo_describe (c : ModuleContext) :
    ComesTo w.git o (describe w c) (o.described w c) := by
  refine (ComesTo.describer.adapt GenerateError.component).bind fun describer => ?_
  refine (ComesTo.ofResult GenerateError.describer _).bind fun description => ?_
  refine ComesTo.ofParts (Components.offer_getLayout w.git) fun c' hc' => ?_
  have hlayout : c'.getLayout.1.value = o.layout := hc' ▸ c'.getLayout_value w.git
  rw [hlayout]
  exact (ComesTo.ofLogged _).bind fun usage => ComesTo.pure _

/-- Assembling comes to the README. -/
theorem comesTo_assemble (readme : Path) (c : ModuleContext) (d : Description)
    (u : UsageExamples) :
    ComesTo w.git o (assemble w readme c d u) (o.assembled w readme c d u) := by
  refine (ComesTo.ofExcept GenerateError.readme _).bind fun existing => ?_
  refine ComesTo.ofParts (Components.offer_getAssembler w.git) fun c' hc' => ?_
  have hassembler : c'.getAssembler.1.value.value = o.assembler :=
    hc' ▸ c'.getAssembler_value w.git
  rw [hassembler]
  exact ComesTo.pure _

/-- The steps for a module come to the text of its README. -/
theorem comesTo_content (directory readme : Path) :
    ComesTo w.git o (content w directory readme) (o.content w directory readme) :=
  (comesTo_readModule directory.toText).bind fun context =>
    (comesTo_describe context).bind fun found =>
      comesTo_assemble readme context found.1 found.2

end Generate

end ModuleDocs
