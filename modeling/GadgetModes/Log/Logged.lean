import GadgetModes.Log.Event

/-!
# Results with a log

`Logged α` is a value with the events reported on the way to it, in order. Steps are
chained as in any monad; the logs are put one after the other.
-/

namespace GadgetModes.Log

/-- A value with the events reported on the way to it. -/
structure Logged (α : Type) where
  value : α
  log : List Event := []

namespace Logged

def report (e : Event) : Logged Unit :=
  ⟨(), [e]⟩

/-- Goes on with a value; the events follow those before. -/
def andThen {α β : Type} (x : Logged α) (f : α → Logged β) : Logged β :=
  let y := f x.value
  ⟨y.value, x.log ++ y.log⟩

instance : Monad Logged where
  pure a := ⟨a, []⟩
  bind := andThen

variable {α β : Type}

@[simp] theorem value_pure (a : α) : (pure a : Logged α).value = a := rfl

@[simp] theorem log_pure (a : α) : (pure a : Logged α).log = [] := rfl

@[simp] theorem value_bind (x : Logged α) (f : α → Logged β) :
    (x >>= f).value = (f x.value).value := rfl

@[simp] theorem log_bind (x : Logged α) (f : α → Logged β) :
    (x >>= f).log = x.log ++ (f x.value).log := rfl

@[simp] theorem log_report (e : Event) : (report e).log = [e] := rfl

end Logged

end GadgetModes.Log
