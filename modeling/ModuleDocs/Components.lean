import ModuleDocs.Checkout.Modules
import ModuleDocs.Settings.Basic

/-! # Components

    A run makes each of its parts once and keeps it: the brace mode of the
    scanner, the describer, the checkout, the layout of examples, and the
    assembler, which holds the layout it was made with.  Each instance that
    is made gets a number of its own, so it can be told whether two requests
    were given the same one.

    Asking for a scanner or a describer of a stated kind makes a new one and
    keeps that.  A request that fails changes nothing. -/

namespace ModuleDocs

/-- A part that was made, with its number. -/
structure Instance (α : Type) where
  id : Nat
  value : α
deriving DecidableEq, Repr

/-- The parts made so far. -/
structure Components where
  settings : Settings
  /-- How many instances were made. -/
  made : Nat := 0
  scanner : Option (Instance Hcl.BraceMode) := none
  describer : Option (Instance Describer) := none
  checkout : Option (Instance Checkout) := none
  layout : Option (Instance UsageStyle) := none
  assembler : Option (Instance (Instance UsageStyle)) := none
deriving Repr

/-- Why a part is not made. -/
inductive ComponentError where
  | unknownScanner (kind : Text)
  | unknownDescriber (kind : Text)
  | missingKey (setting provider : Text)
deriving DecidableEq, Repr

/-- The wording of an error. -/
def ComponentError.message : ComponentError → Text
  | unknownScanner kind => "Unknown scanner type: " ++ kind ++ ". Valid options: 'hcl_regex'"
  | unknownDescriber kind =>
    "Unknown describer type: " ++ kind ++ ". Valid options: 'openai', 'heuristic'"
  | missingKey setting provider => setting ++ " is required for " ++ provider

/-- A step of work with the parts: it may make some, log, and fail. -/
abbrev Action (ε α : Type) := ExceptT ε (StateT Components Logged) α

namespace Components

/-- The kind that is asked for: the one stated, or else the one of the settings. -/
def kindOf (stated : Option Text) (set : Text) : Text := (Settings.given? stated).getD set

/-- The scanner of a kind. -/
def newScanner (s : Settings) (kind : Text) : Except ComponentError Hcl.BraceMode :=
  if kind = "hcl_regex" then .ok s.braceMode else .error (.unknownScanner kind)

/-- The describer that asks the chosen chat service.  Without a key there is none, or the
describer that needs no service takes its place, with a warning. -/
def newChatDescriber (s : Settings) : Logged (Except ComponentError Describer) :=
  let key := Text.upper s.provider.keySetting
  if s.apiKey ≠ [] then pure (.ok (.chat s.chatOptions s.fallBack))
  else if s.fallBack then
    .warn (.ok .heuristic) (key ++ " is not set, using the heuristic describer")
  else pure (.error (.missingKey key s.provider.displayName))

/-- The describer of a kind. -/
def newDescriber (s : Settings) (kind : Text) : Logged (Except ComponentError Describer) :=
  if kind = "openai" then newChatDescriber s
  else if kind = "heuristic" then pure (.ok .heuristic)
  else pure (.error (.unknownDescriber kind))

/-- The options of the checkout. -/
def checkoutOptions (s : Settings) : CheckoutOptions where
  filePatterns := s.filePatterns
  excludeDirs := s.excludeDirs
  repository := s.repository
  defaultTag := s.defaultTag

/-- The scanner; of the stated kind, or the one kept. -/
def getScanner (c : Components) (stated : Option Text) :
    Except ComponentError (Instance Hcl.BraceMode × Components) :=
  match stated, c.scanner with
  | none, some kept => .ok (kept, c)
  | stated, _ =>
    (newScanner c.settings (kindOf stated c.settings.scannerType)).map fun mode =>
      let new := ⟨c.made, mode⟩
      (new, { c with made := c.made + 1, scanner := some new })

/-- The describer; of the stated kind, or the one kept. -/
def getDescriber (c : Components) (stated : Option Text) :
    Logged (Except ComponentError (Instance Describer × Components)) :=
  match stated, c.describer with
  | none, some kept => pure (.ok (kept, c))
  | stated, _ =>
    (Except.map fun describer =>
      let new := ⟨c.made, describer⟩
      (new, { c with made := c.made + 1, describer := some new })) <$>
      newDescriber c.settings (kindOf stated c.settings.describerType)

/-- The checkout. -/
def getCheckout (c : Components) : Instance Checkout × Components :=
  match c.checkout with
  | some kept => (kept, c)
  | none =>
    let new := ⟨c.made, ⟨checkoutOptions c.settings, none⟩⟩
    (new, { c with made := c.made + 1, checkout := some new })

/-- Puts what the checkout has learned. -/
def putCheckout (c : Components) (checkout : Instance Checkout) : Components :=
  { c with checkout := some checkout }

/-- The layout of examples. -/
def getLayout (c : Components) : Instance UsageStyle × Components :=
  match c.layout with
  | some kept => (kept, c)
  | none =>
    let new := ⟨c.made, {}⟩
    (new, { c with made := c.made + 1, layout := some new })

/-- The assembler. -/
def getAssembler (c : Components) : Instance (Instance UsageStyle) × Components :=
  match c.assembler with
  | some kept => (kept, c)
  | none =>
    let (layout, c) := c.getLayout
    let new := ⟨c.made, layout⟩
    (new, { c with made := c.made + 1, assembler := some new })

/-- Forgets all parts; numbers go on. -/
def clear (c : Components) : Components := { settings := c.settings, made := c.made }

end Components

namespace Action

variable {ε α : Type}

/-- A step that only logs. -/
def ofLogged (x : Logged α) : Action ε α := ExceptT.lift (StateT.lift x)

/-- A step that may fail. -/
def ofExcept {ε' : Type} (cause : ε' → ε) (x : Except ε' α) : Action ε α :=
  ExceptT.mk (pure (x.mapError cause))

/-- A step that may log and fail. -/
def ofResult {ε' : Type} (cause : ε' → ε) (x : Logged (Except ε' α)) : Action ε α :=
  ExceptT.mk (StateT.lift ((Except.mapError cause) <$> x))

/-- A step that goes on with the parts it gives. -/
def ofParts (f : Components → α × Components) : Action ε α := do
  let (a, c) := f (← get)
  set c
  pure a

/-- The scanner kept. -/
def scanner : Action ComponentError Hcl.BraceMode := do
  let (scanner, c) ← ofExcept id ((← get).getScanner none)
  set c
  pure scanner.value

/-- The describer kept. -/
def describer : Action ComponentError Describer := do
  let (describer, c) ← ofResult id ((← get).getDescriber none)
  set c
  pure describer.value

/-- Runs a step. -/
def run (x : Action ε α) (c : Components) : Logged (Except ε α × Components) :=
  StateT.run (ExceptT.run x) c

end Action

end ModuleDocs
