import GadgetModes.Relay.Setup

/-!
# How setting up goes

Signals are pointed at the relay one after the other, up to the first that refuses. Either none
does, and they all are pointed at it, or the host is as it was before (`install_eq`): what was
replaced is put back latest first, so that a signal that was pointed twice gets its first
disposition back in the end.

An attempt to set the relay up has four outcomes (`Attempted`), and no other
(`setUpFor_attempted`).
-/

namespace GadgetModes

open GadgetModes.Log

variable {κ α : Type}

namespace Host

def refuses (h : Host α) (s : Signal) : Bool :=
  s.isUntrappable || h.refused.contains s

def pointAll (h : Host α) (signals : List Signal) (d : Disposition) : Host α :=
  { h with dispositions := fun t => if t ∈ signals then d else h.dispositions t }

theorem setDisposition_eq (h : Host α) (s : Signal) (d : Disposition) :
    h.setDisposition s d =
      if h.refuses s then .error .invalidArgument else .ok (h.point s d) := rfl

/-- A disposition that is put back after it was changed is what it was. -/
theorem point_point (h : Host α) (s : Signal) (d : Disposition) :
    (h.point s d).point s (h.dispositions s) = h := by
  simp only [point]
  congr 1
  funext t
  by_cases ht : t = s <;> simp [ht]

theorem pointAll_point (h : Host α) (s : Signal) (signals : List Signal) (d : Disposition) :
    (h.point s d).pointAll signals d = h.pointAll (s :: signals) d := by
  simp only [pointAll, point, List.mem_cons]
  congr 1
  funext t
  by_cases ht : t = s <;> simp [ht]

end Host

namespace Relay

open MainLoop

theorem restore_cons (s : Signal) (d : Disposition) (previous : List (Signal × Disposition))
    (h : Host α) : restore ((s, d) :: previous) h = restore previous (h.point s d) := rfl

/-- The first signal that refuses is told, and then no disposition is changed. -/
theorem install_eq (previous : List (Signal × Disposition)) (signals : List Signal)
    (h : Host α) :
    install previous signals h =
      match signals.find? h.refuses with
      | some s => (some (s, .invalidArgument), restore previous h)
      | none => (none, h.pointAll signals .relayed) := by
  induction signals generalizing previous h with
  | nil => simp [install, Host.pointAll]
  | cons s signals ih =>
      rw [install, Host.setDisposition_eq, List.find?_cons]
      cases hs : h.refuses s with
      | true => rfl
      | false =>
          have hrefuses : (h.point s .relayed).refuses = h.refuses := rfl
          simp only [Bool.false_eq_true, if_false, ih, hrefuses, restore_cons,
            Host.point_point, Host.pointAll_point]

/-! ## Attempts -/

/-- The relay is claimed and its pipe is watched, but no signal is pointed at it yet. -/
def watching (callback : κ) (l : MainLoop κ) (h : Host α) : Nat × MainLoop κ × Host α :=
  let (n, pipes) := h.pipes.create
  l.addWatch
    (enterStage
      { h with pipes, relay := { h.relay with claimed := true, writeEnd := some ⟨n, .write⟩ } }
      .transportReady)
    ⟨n, .read⟩ conditions callback

/-- The relay is given back after a failure, and its watch is removed. -/
def unwatching (failure : Failure) (callback : κ) (l : MainLoop κ) (h : Host α) :
    Bool × MainLoop κ × Host α :=
  (watching callback l h).2.1.removeWatch
    (reset ((watching callback l h).2.2.report (.handlersNotInstalled failure))) l.nextId

/-- Signals are pointed at the relay, and it runs. -/
def running (signals : List Signal) (h : Host α) : Host α :=
  (enterStage (enterStage (h.pointAll signals .relayed) .signalsTrapped) .running).report
    .relayRunning

/-- How an attempt ends, by what came of pointing the signals. -/
def concluded (callback : κ) (l : MainLoop κ) (h : Host α) :
    Option (Signal × Errno) × Host α → Turn κ α Nat
  | (some (s, e), g) =>
    let (_, l', h') := (watching callback l h).2.1.removeWatch
      (reset (g.report (.handlersNotInstalled (trapFailure s e)))) l.nextId
    ⟨.failed (trapFailure s e), l', h'.close ⟨h.pipes.create.1, .write⟩⟩
  | (none, g) =>
    ⟨.returned l.nextId, (watching callback l h).2.1,
      (enterStage (enterStage g .signalsTrapped) .running).report .relayRunning⟩

/-- The outcomes of an attempt to set the relay up. -/
inductive Attempted (signals : List Signal) (callback : κ) (l : MainLoop κ) (h : Host α) :
    Turn κ α Nat → Prop
  | claimed (hclaimed : h.relay.claimed = true) :
      Attempted signals callback l h ⟨.failed claimedFailure, l, h⟩
  /-- Too many files are open for another pipe. -/
  | noPipe (hunclaimed : h.relay.claimed = false)
      (hfiles : h.fileLimit < Host.standardFiles + h.pipes.openCount + 2) :
      Attempted signals callback l h
        ⟨.failed (.system .tooManyFiles), l,
          reset ({ h with relay := { h.relay with claimed := true } }.report
            (.pipeNotCreated (.system .tooManyFiles)))⟩
  /-- A signal refuses, and all is taken back. -/
  | refused {s : Signal} (hunclaimed : h.relay.claimed = false)
      (hfiles : Host.standardFiles + h.pipes.openCount + 2 ≤ h.fileLimit)
      (hfirst : signals.find? h.refuses = some s) :
      Attempted signals callback l h
        ⟨.failed (trapFailure s .invalidArgument),
          (unwatching (trapFailure s .invalidArgument) callback l h).2.1,
          (unwatching (trapFailure s .invalidArgument) callback l h).2.2.close
            ⟨h.pipes.create.1, .write⟩⟩
  | running (hunclaimed : h.relay.claimed = false)
      (hfiles : Host.standardFiles + h.pipes.openCount + 2 ≤ h.fileLimit)
      (hnone : signals.find? h.refuses = none) :
      Attempted signals callback l h
        ⟨.returned l.nextId, (watching callback l h).2.1,
          Relay.running signals (watching callback l h).2.2⟩

theorem setUpFor_attempted (signals : List Signal) (callback : κ) (l : MainLoop κ)
    (h : Host α) : Attempted signals callback l h (setUpFor signals callback l h) := by
  cases hclaimed : h.relay.claimed with
  | true =>
      rw [setUpFor, if_pos hclaimed]
      exact .claimed hclaimed
  | false =>
      by_cases hfiles : h.fileLimit < Host.standardFiles + h.pipes.openCount + 2
      · have hturn : Attempted signals callback l h _ := .noPipe hclaimed hfiles
        simpa [setUpFor, hclaimed, Host.createPipe, hfiles] using hturn
      · have hinstall := install_eq [] signals (watching callback l h).2.2
        have hrefuses : (watching callback l h).2.2.refuses = h.refuses := rfl
        rw [hrefuses] at hinstall
        have hsetUp : setUpFor signals callback l h =
            concluded callback l h (install [] signals (watching callback l h).2.2) := by
          simp only [setUpFor, hclaimed, Host.createPipe, hfiles]
          rfl
        rw [hsetUp, hinstall]
        cases hfirst : signals.find? h.refuses with
        | some s => exact .refused hclaimed (Nat.le_of_not_lt hfiles) hfirst
        | none => exact .running hclaimed (Nat.le_of_not_lt hfiles) hfirst

end Relay

end GadgetModes
