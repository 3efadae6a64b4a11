import GadgetModes.MainLoop.Run

/-!
# Scripted callbacks

A script says what a callback does: how many bytes it reads, at which call it asks to
quit, and when its watch is to go. What happens is written down as a list of calls.

A script asks to quit at every call after the thousandth. As every round calls someone,
a run of scripts comes to an end (`Script.roundLimit`).
-/

namespace GadgetModes

/-- What a callback is to do. -/
structure Script where
  /-- The number under which its calls are written down. -/
  number : Nat
  /-- How many bytes it reads at most. -/
  reads : Nat := 0
  quitAfter : Option Nat := none
  removeAfter : Option Nat := none
  removeOn : PollFlags := {}
deriving DecidableEq

/-- One call of a callback: what was reported, and what it read if it did. -/
structure Call where
  number : Nat
  revents : PollFlags
  received : Option (Except Errno (List UInt8)) := none

namespace Script

/-- After how many calls every script asks to quit. -/
def patience : Nat := 1000

/-- The host after reading what a script reads, and what that gave. -/
def readFrom (s : Script) (d : Descriptor) (h : Host (List Call)) :
    Option (Except Errno (List UInt8)) × Host (List Call) :=
  if s.reads = 0 then (none, h)
  else
    match h.pipes.read d s.reads with
    | .error e => (some (.error e), h)
    | .ok (bytes, pipes) => (some (.ok bytes), { h with pipes })

def act : Callbacks Script (List Call) := fun s d revents h =>
  let calls := (h.data.filter (·.number = s.number)).length + 1
  let (received, h) := s.readFrom d h
  let removes := s.removeAfter = some calls || revents.meets s.removeOn
  .done (if removes then .remove else .goOn) (s.quitAfter = some calls || patience < calls)
    { h with data := h.data ++ [⟨s.number, revents, received⟩] }

/-- How many rounds a run of scripts can take. -/
def roundLimit (l : MainLoop Script) : Nat :=
  (patience + 1) * l.watches.length + 1

end Script

end GadgetModes
