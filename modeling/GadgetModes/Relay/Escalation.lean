import GadgetModes.Host.Signal

/-!
# Escalation

A termination signal that arrives while an earlier one was not acted upon means that
the main loop is stuck. A counter of 32 bits remembers how many termination signals
arrived; from the second one on the process has to abort.
-/

namespace GadgetModes.Relay

/-- How many termination signals may arrive before the process gives up. -/
def escalationLimit : UInt32 := 2

/-- What is to be done about a signal that arrived. -/
inductive Escalation where
  | proceed
  | abort
deriving DecidableEq

/-- Whether a signal number asks the process to end. -/
def isTermination (signal : Int32) : Bool :=
  signal = 2 || signal = 3 || signal = 15

/-- The number of termination signals that arrived, as far as 32 bits can tell. -/
structure EscalationCounter where
  count : UInt32 := 0
deriving DecidableEq

/-- The successor of a word; the largest word is its own. -/
def saturatingSucc (n : UInt32) : UInt32 :=
  if n + 1 = 0 then n else n + 1

/-- Counts a signal and judges it. The count itself wraps around; the judgement goes by
the count before, with one more that does not wrap. -/
def EscalationCounter.register (c : EscalationCounter) (signal : Int32) :
    Escalation × EscalationCounter :=
  if isTermination signal then
    (if escalationLimit ≤ saturatingSucc c.count then .abort else .proceed, ⟨c.count + 1⟩)
  else (.proceed, c)

end GadgetModes.Relay
