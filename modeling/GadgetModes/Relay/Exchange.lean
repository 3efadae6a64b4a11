import GadgetModes.Relay.Message

/-!
# Exchanges

An exchange is one pipe over which messages and loose bytes go. Each end is open until it
is closed; what goes through a closed end fails as it does on a descriptor that is none.
-/

namespace GadgetModes.Relay

/-- A pipe in use, by its number among all pipes. -/
structure Exchange where
  pipe : Nat
  pipes : Pipes

/-- The way that a message takes: an end of the pipe, or no descriptor at all. -/
abbrev Way := Option Side

namespace Exchange

/-- An exchange over a fresh pipe. -/
def start : Exchange :=
  let (pipe, pipes) := Pipes.create {}
  { pipe, pipes }

/-- What an exchange can be asked. -/
inductive Request where
  | send (value : Int32) (way : Way)
  | receive (way : Way)
  | write (bytes : List UInt8)
  | close (side : Side)

inductive Answer where
  | done
  /-- The end that bytes were to go through is closed. -/
  | notHeld
  | sent (outcome : Except TransferFault Unit)
  | received (outcome : Except TransferFault Int32)
  | written (outcome : Except Errno Nat)

/-- The descriptor of an end, while it is open. -/
def descriptor? (x : Exchange) (side : Side) : Option Descriptor :=
  if x.pipes.isOpen ⟨x.pipe, side⟩ then some ⟨x.pipe, side⟩ else none

/-- The bytes that were written and not yet read. -/
def buffered (x : Exchange) : List UInt8 :=
  (x.pipes.pipe? x.pipe).elim [] (·.buffered)

def step (x : Exchange) : Request → Answer × Exchange
  | .send value way =>
    match Relay.send x.pipes (way.bind x.descriptor?) value with
    | .error fault => (.sent (.error fault), x)
    | .ok pipes => (.sent (.ok ()), { x with pipes })
  | .receive way =>
    match way.bind x.descriptor? with
    | none => (.notHeld, x)
    | some d =>
      let (outcome, pipes) := Relay.receive x.pipes d
      (.received outcome, { x with pipes })
  | .write bytes =>
    match x.descriptor? .write with
    | none => (.notHeld, x)
    | some d =>
      match x.pipes.write d bytes with
      | .error e => (.written (.error e), x)
      | .ok pipes => (.written (.ok bytes.length), { x with pipes })
  | .close side => (.done, { x with pipes := x.pipes.close ⟨x.pipe, side⟩ })

end Exchange

end GadgetModes.Relay
