import ModuleDocs.Text.Basic

/-! # Log entries

    What an operation has to report besides its result.  Operations are pure:
    an operation that may warn returns its value together with the entries,
    in the order in which they were made. -/

namespace ModuleDocs

/-- How grave a log entry is. -/
inductive Level where
  | debug
  | info
  | warning
  | error
  | critical
deriving DecidableEq, Repr

namespace Level

/-- The name of a level. -/
def name : Level → Text
  | debug => "DEBUG"
  | info => "INFO"
  | warning => "WARNING"
  | error => "ERROR"
  | critical => "CRITICAL"

/-- Levels by growing gravity. -/
def rank : Level → Nat
  | debug => 0
  | info => 1
  | warning => 2
  | error => 3
  | critical => 4

end Level

/-- One log entry. -/
structure Entry where
  level : Level
  text : Text
deriving DecidableEq, Repr

/-- A value with the entries that were logged on the way to it. -/
structure Logged (α : Type) where
  value : α
  log : List Entry := []

namespace Logged

variable {α β : Type}

/-- A value and one warning. -/
def warn (value : α) (text : Text) : Logged α := ⟨value, [⟨.warning, text⟩]⟩

/-- Goes on with a value; the later entries follow the earlier ones. -/
def andThen (x : Logged α) (f : α → Logged β) : Logged β :=
  ⟨(f x.value).value, x.log ++ (f x.value).log⟩

instance : Monad Logged where
  pure a := ⟨a, []⟩
  bind := andThen

@[simp] theorem value_pure (a : α) : (pure a : Logged α).value = a := rfl

@[simp] theorem log_pure (a : α) : (pure a : Logged α).log = [] := rfl

@[simp] theorem value_bind (x : Logged α) (f : α → Logged β) :
    (x >>= f).value = (f x.value).value := rfl

@[simp] theorem log_bind (x : Logged α) (f : α → Logged β) :
    (x >>= f).log = x.log ++ (f x.value).log := rfl

end Logged

end ModuleDocs
