import ModuleDocs.Log

/-! # Logs of longer operations

    Logging obeys the laws of a monad, so the value of a sequence of steps is
    the sequence of values, and its log is the logs one after another. -/

namespace ModuleDocs.Logged

variable {α β : Type}

/-- Two results are equal when values and logs are. -/
theorem ext_of {x y : Logged α} (hvalue : x.value = y.value) (hlog : x.log = y.log) : x = y := by
  cases x; cases y
  subst hvalue hlog
  rfl

instance : LawfulMonad Logged :=
  LawfulMonad.mk' Logged
    (fun x => ext_of rfl (List.append_nil x.log))
    (fun _ _ => ext_of rfl rfl)
    (fun x f g => ext_of rfl (List.append_assoc x.log (f x.value).log (g (f x.value).value).log))

@[simp] theorem value_map (f : α → β) (x : Logged α) : (f <$> x).value = f x.value := rfl

@[simp] theorem log_map (f : α → β) (x : Logged α) : (f <$> x).log = x.log := List.append_nil x.log

@[simp] theorem value_mapM (f : α → Logged β) (l : List α) :
    (l.mapM f).value = l.map fun a => (f a).value := by
  induction l with
  | nil => rfl
  | cons a l ih => rw [List.mapM_cons, value_bind, value_bind, value_pure, ih, List.map_cons]

/-- The log of a sequence of steps is the logs of the steps. -/
@[simp] theorem log_mapM (f : α → Logged β) (l : List α) :
    (l.mapM f).log = l.flatMap fun a => (f a).log := by
  induction l with
  | nil => rfl
  | cons a l ih =>
      rw [List.mapM_cons, log_bind, log_bind, log_pure, ih, List.append_nil, List.flatMap_cons]

end ModuleDocs.Logged
