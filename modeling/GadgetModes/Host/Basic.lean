import GadgetModes.Host.Signal
import GadgetModes.Log.Event
import GadgetModes.Relay.Shared

/-!
# Hosts

A host is the process in which main loops run: its pipes, what it does with signals, the
relay, and the log so far. The callbacks of the loops keep what is theirs in `data`.
-/

namespace GadgetModes

open GadgetModes.Log

/-- What a process does with a signal that is delivered to it. -/
inductive Disposition where
  | byDefault
  | ignored
  /-- The signal goes to the relay. -/
  | relayed
  /-- The signal goes to a handler that has nothing to do with the relay. -/
  | handled (handler : Nat)
deriving DecidableEq

/-- A process leaves signals alone; only writing to a pipe that nobody reads is told by
an error instead. -/
def Disposition.initial (s : Signal) : Disposition :=
  if s = .brokenPipe then .ignored else .byDefault

/-- A process in which main loops run. -/
structure Host (α : Type) where
  pipes : Pipes := {}
  /-- How many files may be open, and how many descriptors a poll may ask for. -/
  fileLimit : Nat := 1024
  dispositions : Signal → Disposition := Disposition.initial
  /-- Signals whose disposition cannot be changed, besides those where it never can. -/
  refused : List Signal := []
  relay : Relay.Shared := {}
  log : List Event := []
  /-- What belongs to the callbacks. -/
  data : α

namespace Host

variable {α : Type}

/-- How many files are open from the start: input, output and errors. -/
def standardFiles : Nat := 3

/-- Adds an event to the log. -/
def report (h : Host α) (e : Event) : Host α :=
  { h with log := h.log ++ [e] }

/-- Makes a pipe, if two more files may be open. -/
def createPipe (h : Host α) : Except Errno (Nat × Host α) :=
  if h.fileLimit < standardFiles + h.pipes.openCount + 2 then .error .tooManyFiles
  else
    let (n, pipes) := h.pipes.create
    .ok (n, { h with pipes })

def close (h : Host α) (d : Descriptor) : Host α :=
  { h with pipes := h.pipes.close d }

/-- Sets what is done with a signal, whether or not it may be set. -/
def point (h : Host α) (s : Signal) (d : Disposition) : Host α :=
  { h with dispositions := fun t => if t = s then d else h.dispositions t }

/-- Changes what is done with a signal. -/
def setDisposition (h : Host α) (s : Signal) (d : Disposition) : Except Errno (Host α) :=
  if s.isUntrappable || h.refused.contains s then .error .invalidArgument
  else .ok (h.point s d)

end Host

end GadgetModes
