import GadgetModes.Host.Basic
import GadgetModes.Relay.Message

/-!
# Delivering signals

A signal whose disposition is the relay is counted and written to the pipe of the relay.
The process aborts when the count says so, and when the message cannot be written.
-/

namespace GadgetModes.Relay

variable {α : Type}

/-- What is left of a process after a signal was delivered to it. -/
inductive Delivery (α : Type) where
  | survived (host : Host α)
  /-- The process was ended by a signal: the one delivered, or an abort. -/
  | died (cause : Signal) (host : Host α)

/-- What the relay does in signal context. -/
def trap (h : Host α) (s : Signal) : Delivery α :=
  let value := Int32.ofNat s.number
  let (verdict, escalation) := h.relay.escalation.register value
  let h := { h with relay := { h.relay with escalation } }
  match verdict with
  | .abort => .died .abort h
  | .proceed =>
    match send h.pipes h.relay.writeEnd value with
    | .ok pipes => .survived { h with pipes }
    | .error _ => .died .abort h

/-- Delivers a signal to a process. One that only stops the process leaves no trace, as
the process is resumed later. -/
def deliver (h : Host α) (s : Signal) : Delivery α :=
  match h.dispositions s with
  | .relayed => trap h s
  | .ignored | .handled _ => .survived h
  | .byDefault => if s.defaultEffect = .terminates then .died s h else .survived h

end GadgetModes.Relay
