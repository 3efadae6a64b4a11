/-!
# The life of the relay
-/

namespace GadgetModes.Relay

/-- How far the relay has come. -/
inductive Stage where
  | uninitialized
  | transportReady
  | signalsTrapped
  | running
deriving DecidableEq

def Stage.name : Stage → String
  | uninitialized => "Uninitialized"
  | transportReady => "TransportReady"
  | signalsTrapped => "SignalsTrapped"
  | running => "Running"

end GadgetModes.Relay
