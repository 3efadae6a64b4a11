import GadgetModes.Host.Basic

/-!
# Main loops

A main loop owns the descriptors that it watches. Each watch has a number that is never
given again, the conditions it asks for, and a callback. What a callback does is told by
a function on its name; its reply says whether the watch stays, whether the loop is to
quit, and what the host is like afterwards.
-/

namespace GadgetModes

open GadgetModes.Log

/-- A descriptor that a loop watches. -/
structure Watch (κ : Type) where
  id : Nat
  descriptor : Descriptor
  conditions : PollFlags
  callback : κ
deriving DecidableEq

/-- A loop with its watches, in the order in which they were added. -/
structure MainLoop (κ : Type) where
  watches : List (Watch κ) := []
  nextId : Nat := 1
  /-- Whether the loop was asked to quit. -/
  quit : Bool := false
deriving DecidableEq

/-- What becomes of a watch after its callback ran. -/
inductive Action where
  | goOn
  | remove
deriving DecidableEq

/-- What a callback leaves behind: it is done, or it brought the process down. -/
inductive Reply (α : Type) where
  | done (action : Action) (quits : Bool) (host : Host α)
  | aborted (host : Host α)

/-- What callbacks do when a poll reports conditions for their descriptor. -/
abbrev Callbacks (κ α : Type) := κ → Descriptor → PollFlags → Host α → Reply α

namespace MainLoop

variable {κ α : Type}

def hasWatch (l : MainLoop κ) (id : Nat) : Bool :=
  l.watches.any (·.id = id)

/-- Watches a descriptor, and tells the number of the watch. -/
def addWatch (l : MainLoop κ) (h : Host α) (d : Descriptor) (conditions : PollFlags)
    (callback : κ) : Nat × MainLoop κ × Host α :=
  (l.nextId,
    { l with
      watches := l.watches ++ [⟨l.nextId, d, conditions, callback⟩]
      nextId := l.nextId + 1 },
    h.report (.watchAdded l.nextId conditions))

/-- Stops watching and closes the descriptor; tells whether the watch was there. -/
def removeWatch (l : MainLoop κ) (h : Host α) (id : Nat) : Bool × MainLoop κ × Host α :=
  match l.watches.find? (·.id = id) with
  | none => (false, l, h)
  | some w =>
    (true, { l with watches := l.watches.filter (·.id ≠ id) },
      (h.close w.descriptor).report (.watchRemoved id))

/-- Stops several watches, one after the other. -/
def removeWatches (l : MainLoop κ) (h : Host α) (ids : List Nat) : MainLoop κ × Host α :=
  ids.foldl (fun (l, h) id => (l.removeWatch h id).2) (l, h)

def askQuit (l : MainLoop κ) : MainLoop κ :=
  { l with quit := true }

end MainLoop

/-- How something that a loop was asked to do ended. -/
inductive Outcome (β : Type) where
  | returned (value : β)
  | failed (failure : Failure)
  /-- The loop waits, and nothing but a signal can wake it. -/
  | asleep
  /-- The rounds that were allowed are used up. -/
  | unfinished
  /-- The process aborted. -/
  | aborted
deriving DecidableEq

/-- An outcome with the loop and the host afterwards. -/
structure Turn (κ α β : Type) where
  outcome : Outcome β
  loop : MainLoop κ
  host : Host α

end GadgetModes
