import GadgetModes.MainLoop.Basic
import GadgetModes.Relay.Dispatch

/-!
# Setting up the relay

Setting up makes a pipe, watches its read end, and points the trapped signals at the
relay. It is done once in a process. When a step fails all earlier ones are undone, and
the relay may be set up again.
-/

namespace GadgetModes.Relay

open GadgetModes.Log

variable {κ α : Type}

/-- The signals that go through the relay. -/
def trapped : List Signal :=
  [.interrupt, .quit, .terminate, .hangup]

/-- Goes to a stage, and reports it. -/
def enterStage (h : Host α) (stage : Stage) : Host α :=
  { h with relay := { h.relay with stage } }.report (.relayStageChanged stage)

/-- Gives the relay back, so that it may be set up again. -/
def reset (h : Host α) : Host α :=
  let h := enterStage { h with relay := { h.relay with writeEnd := none } } .uninitialized
  { h with relay := { h.relay with claimed := false } }

/-- Puts dispositions back, in the order given. -/
def restore (previous : List (Signal × Disposition)) (h : Host α) : Host α :=
  previous.foldl (fun h (s, d) => h.point s d) h

/-- Points signals at the relay in order. The first that refuses is told, after the
dispositions that were replaced, the latest first, are put back. -/
def install (previous : List (Signal × Disposition)) :
    List Signal → Host α → Option (Signal × Errno) × Host α
  | [], h => (none, h)
  | s :: rest, h =>
    match h.setDisposition s .relayed with
    | .error e => (some (s, e), restore previous h)
    | .ok h' => install ((s, h.dispositions s) :: previous) rest h'

/-- What setting up says when a signal cannot be trapped. -/
def trapFailure (s : Signal) (e : Errno) : Failure :=
  .signal ("failed to trap " ++ s.name ++ ": " ++ e.named)

/-- What setting up says the second time. -/
def claimedFailure : Failure :=
  .signal "already initialized"

/-- Sets the relay up for some signals, and tells the number of its watch. -/
def setUpFor (signals : List Signal) (callback : κ) (l : MainLoop κ) (h : Host α) :
    Turn κ α Nat :=
  if h.relay.claimed then ⟨.failed claimedFailure, l, h⟩
  else
    let h := { h with relay := { h.relay with claimed := true } }
    match h.createPipe with
    | .error e => ⟨.failed (.system e), l, reset (h.report (.pipeNotCreated (.system e)))⟩
    | .ok (n, h) =>
      let h := enterStage { h with relay := { h.relay with writeEnd := some ⟨n, .write⟩ } }
        .transportReady
      let (id, l, h) := l.addWatch h ⟨n, .read⟩ conditions callback
      match install [] signals h with
      | (some (s, e), h) =>
        let failure := trapFailure s e
        let (_, l, h) := l.removeWatch (reset (h.report (.handlersNotInstalled failure))) id
        ⟨.failed failure, l, h.close ⟨n, .write⟩⟩
      | (none, h) =>
        let h := enterStage (enterStage h .signalsTrapped) .running
        ⟨.returned id, l, h.report .relayRunning⟩

/-- Sets the relay up for the trapped signals. -/
def setUp (callback : κ) (l : MainLoop κ) (h : Host α) : Turn κ α Nat :=
  setUpFor trapped callback l h

end GadgetModes.Relay
