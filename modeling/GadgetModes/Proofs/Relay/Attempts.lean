import GadgetModes.Proofs.MainLoop.Registry
import GadgetModes.Proofs.Relay.Wiring

/-!
# Attempts to set the relay up

An attempt that fails leaves all dispositions as they were, takes its watch off the loop again,
and leaves the relay without a pipe, or as it was (`undone_of_not_returned`). One that succeeds
leaves all signals alone that it is not for (`of_returned`).
-/

namespace GadgetModes

open GadgetModes.Log

variable {κ α : Type}

namespace MainLoop

/-- Removing a watch does nothing to the host but that an end is closed, which is reported. -/
theorem removeWatch_host (l : MainLoop κ) (h : Host α) (id : Nat) :
    (l.removeWatch h id).2.1.nextId = l.nextId
      ∧ ∃ pipes log, (l.removeWatch h id).2.2 = { h with pipes, log }
        ∧ Pipes.Later (fun _ => False) h.pipes pipes := by
  rw [removeWatch]
  split
  · exact ⟨rfl, h.pipes, h.log, rfl, .refl _ _⟩
  · exact ⟨rfl, _, _, rfl, .close not_false⟩

end MainLoop

namespace Relay

open MainLoop

/-! ## Attempts that fail -/

/-- What an attempt leaves behind that fails. -/
structure Undone (l : MainLoop κ) (h : Host α) (l' : MainLoop κ) (h' : Host α) : Prop where
  watches : (∀ w ∈ l.watches, w.id < l.nextId) → l'.watches = l.watches
  nextId : l.nextId ≤ l'.nextId
  dispositions : h'.dispositions = h.dispositions
  data : h'.data = h.data
  writeEnd : h'.relay.writeEnd = none ∨ h'.relay = h.relay
  escalation : h'.relay.escalation = h.relay.escalation
  made : ∀ n p, h.pipes.pipe? n = some p → ∃ p', h'.pipes.pipe? n = some p'

/-- The watch of the relay is taken off again, and an end of a pipe is closed. -/
theorem undone_of_unwatching (failure : Failure) (callback : κ) (l : MainLoop κ) (h : Host α)
    (d : Descriptor) :
    Undone l h (unwatching failure callback l h).2.1
      ((unwatching failure callback l h).2.2.close d) := by
  let l' := (watching callback l h).2.1
  let g := reset ((watching callback l h).2.2.report (.handlersNotInstalled failure))
  obtain ⟨hnext, pipes, log, hhost, hpipes⟩ := l'.removeWatch_host g l.nextId
  have hcreated : Pipes.Later (fun _ => False) h.pipes g.pipes := .create _ _
  have hclosed : Pipes.Later (fun _ => False) pipes (pipes.close d) := .close not_false
  rw [show unwatching failure callback l h = l'.removeWatch g l.nextId from rfl, hhost]
  refine ⟨fun hold => ?_, ?_, rfl, rfl, .inl rfl, rfl,
    ((hcreated.trans hpipes).trans hclosed).made⟩
  · rw [(Registered.removeWatch_eq l' g l.nextId).2,
      show l'.watches = l.watches ++ [⟨l.nextId, _, conditions, callback⟩] from rfl,
      List.filter_append,
      List.filter_eq_self.mpr fun v hv => decide_eq_true (Nat.ne_of_lt (hold v hv))]
    simp
  · rw [hnext]
    exact Nat.le_succ _

theorem undone_of_not_returned {signals : List Signal} {callback : κ} {l : MainLoop κ}
    {h : Host α} (houtcome : ∀ id, (setUpFor signals callback l h).outcome ≠ .returned id) :
    Undone l h (setUpFor signals callback l h).loop (setUpFor signals callback l h).host := by
  have hattempted := setUpFor_attempted signals callback l h
  generalize setUpFor signals callback l h = turn at houtcome hattempted
  cases hattempted with
  | claimed =>
      exact ⟨fun _ => rfl, Nat.le_refl _, rfl, rfl, .inr rfl, rfl, fun _ p hp => ⟨p, hp⟩⟩
  | noPipe =>
      exact ⟨fun _ => rfl, Nat.le_refl _, rfl, rfl, .inl rfl, rfl, fun _ p hp => ⟨p, hp⟩⟩
  | refused => exact undone_of_unwatching _ callback l h _
  | running => exact absurd rfl (houtcome _)

/-! ## Attempts that succeed -/

/-- Besides what was established, one number was given and other signals were left alone. -/
theorem of_returned {signals : List Signal} {callback : κ} {l : MainLoop κ} {h : Host α}
    {id : Nat} (houtcome : (setUpFor signals callback l h).outcome = .returned id) :
    (setUpFor signals callback l h).loop.nextId = l.nextId + 1
      ∧ ∀ t, t ∉ signals →
        (setUpFor signals callback l h).host.dispositions t = h.dispositions t := by
  have hattempted := setUpFor_attempted signals callback l h
  generalize setUpFor signals callback l h = turn at houtcome hattempted
  cases hattempted with
  | running => exact ⟨rfl, fun t ht => if_neg ht⟩
  | _ => cases houtcome

end Relay

end GadgetModes
