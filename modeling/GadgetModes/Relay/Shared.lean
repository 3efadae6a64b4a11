import GadgetModes.Host.Pipe
import GadgetModes.Relay.Escalation
import GadgetModes.Relay.Stage

/-!
# What signal context and main loop share

There is one relay in a process. It is claimed before it is set up, so that it is set up
once, and given back when that fails.
-/

namespace GadgetModes.Relay

/-- The state of the relay of a process. -/
structure Shared where
  claimed : Bool := false
  stage : Stage := .uninitialized
  /-- Where signal context writes its messages. -/
  writeEnd : Option Descriptor := none
  escalation : EscalationCounter := {}
deriving DecidableEq

end GadgetModes.Relay
