import GadgetModes.MainLoop.Round

/-!
# Runs

A run makes whole rounds until a callback asks to quit or nothing is left to watch. It
starts by forgetting earlier requests to quit.
-/

namespace GadgetModes.MainLoop

open GadgetModes.Log

variable {κ α : Type}

/-- Makes rounds until the loop is to quit, but no more than a number of them. -/
def rounds (act : Callbacks κ α) (limit : Nat) (l : MainLoop κ) (h : Host α) :
    Turn κ α Unit :=
  if l.quit then ⟨.returned (), l, h⟩
  else if l.watches.isEmpty then ⟨.returned (), l, h.report .noWatchesLeft⟩
  else
    match limit with
    | 0 => ⟨.unfinished, l, h⟩
    | limit + 1 =>
      let turn := iterate act false l h
      match turn.outcome with
      | .returned _ => rounds act limit turn.loop turn.host
      | .failed failure => ⟨.failed failure, turn.loop, turn.host⟩
      | .asleep => ⟨.asleep, turn.loop, turn.host⟩
      | .unfinished => ⟨.unfinished, turn.loop, turn.host⟩
      | .aborted => ⟨.aborted, turn.loop, turn.host⟩

/-- A run of at most a number of rounds. -/
def run (act : Callbacks κ α) (limit : Nat) (l : MainLoop κ) (h : Host α) : Turn κ α Unit :=
  rounds act limit { l with quit := false } h

/-- What a sleeping loop reports when a signal wakes it. -/
def interrupted (h : Host α) : Host α :=
  h.report .pollInterrupted

end GadgetModes.MainLoop
