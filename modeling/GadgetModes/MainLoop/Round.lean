import GadgetModes.MainLoop.Basic

/-!
# Rounds

A round asks once for the conditions of all watches, then serves those that are ready in
the order in which they were added. What a callback does to another descriptor does not
change what was reported for this round. The watches that are to go are removed after
all were served.
-/

namespace GadgetModes.MainLoop

open GadgetModes.Log

variable {κ α : Type}

def polled (l : MainLoop κ) (pipes : Pipes) : List (Watch κ × PollFlags) :=
  l.watches.map fun w => (w, pipes.poll w.descriptor w.conditions)

/-- The watches that a poll reports something for. -/
def ready (l : MainLoop κ) (pipes : Pipes) : List (Watch κ × PollFlags) :=
  (l.polled pipes).filter fun (_, revents) => !revents.isEmpty

/-- What callbacks left behind, one after the other. -/
structure Served (α : Type) where
  /-- The watches that are to be removed, in the order in which they were served. -/
  finished : List Nat
  quits : Bool
  host : Host α

/-- Calls callbacks in order, until one of them aborts. -/
def serve (act : Callbacks κ α) :
    List (Watch κ × PollFlags) → Host α → Except (Host α) (Served α)
  | [], h => .ok ⟨[], false, h⟩
  | (w, revents) :: rest, h =>
    match act w.callback w.descriptor revents h with
    | .aborted h => .error h
    | .done action quits h =>
      (serve act rest h).map fun s =>
        { s with
          finished := (if action = .remove then [w.id] else []) ++ s.finished
          quits := quits || s.quits }

/-- What a poll says that asks for more descriptors than it may. -/
def pollFailure : Failure :=
  .eventLoop ("poll failed: " ++ Errno.invalidArgument.named)

/-- One round. Without a time limit it waits until a watch is ready; with one it gives up
and tells that no callback was called. -/
def iterate (act : Callbacks κ α) (timed : Bool) (l : MainLoop κ) (h : Host α) :
    Turn κ α Nat :=
  if l.watches.isEmpty then ⟨.returned 0, l, h⟩
  else if h.fileLimit < l.watches.length then ⟨.failed pollFailure, l, h⟩
  else
    let ready := l.ready h.pipes
    if ready.isEmpty then ⟨if timed then .returned 0 else .asleep, l, h⟩
    else
      match serve act ready h with
      | .error h => ⟨.aborted, l, h⟩
      | .ok s =>
        let (l, h) := { l with quit := l.quit || s.quits }.removeWatches s.host s.finished
        ⟨.returned ready.length, l, h⟩

end GadgetModes.MainLoop
