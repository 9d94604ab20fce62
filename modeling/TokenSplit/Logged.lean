import TokenSplit.Fault
import TokenSplit.Log

/-!
# Logged computations

A result or a fault together with what was recorded on the way to it.  A fault ends a computation
but keeps the record.
-/

namespace TokenSplit

/-- A result or a fault, and the events recorded before it. -/
structure Logged (α : Type) where
  result : Except Fault α
  log : List Event

namespace Logged

/-- A result with nothing recorded. -/
def ofExcept {α : Type} (result : Except Fault α) : Logged α :=
  ⟨result, []⟩

/-- Records an event. -/
def note (event : Event) : Logged Unit :=
  ⟨.ok (), [event]⟩

/-- Goes on with a result; the records follow one another. -/
def andThen {α β : Type} (x : Logged α) (f : α → Logged β) : Logged β :=
  match x.result with
  | .ok a => ⟨(f a).result, x.log ++ (f a).log⟩
  | .error fault => ⟨.error fault, x.log⟩

instance : Monad Logged where
  pure a := ⟨.ok a, []⟩
  bind := andThen

instance : MonadExceptOf Fault Logged where
  throw fault := ⟨.error fault, []⟩
  tryCatch x recover :=
    match x.result with
    | .ok _ => x
    | .error fault => ⟨(recover fault).result, x.log ++ (recover fault).log⟩

instance : MonadLift (Except Fault) Logged where
  monadLift := ofExcept

end Logged

end TokenSplit
