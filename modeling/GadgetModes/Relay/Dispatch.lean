import GadgetModes.Log.Logged
import GadgetModes.MainLoop.Basic
import GadgetModes.Relay.Message

/-!
# Dispatching messages

On the side of the main loop, each wake-up takes one message off the pipe and hands the
signal to a handler. A message that is cut short or cannot be read brings the process
down; an error or a hangup makes the watch go, after a message that is still there was
handled.
-/

namespace GadgetModes.Relay

open GadgetModes.Log

variable {α : Type}

/-- What is done with a signal: whether the loop is to quit, and the data afterwards. -/
abbrev Handler (α : Type) := Signal → α → Logged (Bool × α)

/-- The conditions that the relay asks for. -/
def conditions : PollFlags :=
  { readable := true, error := true, hangup := true, invalid := true }

/-- The conditions that make a watch of the relay go. -/
def failing : PollFlags :=
  { error := true, hangup := true, invalid := true }

/-- Hands a message to a handler, unless it is no signal. -/
def hand (handler : Handler α) (value : Int32) (h : Host α) : Bool × Host α :=
  match Signal.ofNumber? value.toInt with
  | none => (false, h.report (.unknownSignal value))
  | some s =>
    let handled := handler s h.data
    (handled.value.1,
      { h with
        log := h.log ++ .relayingSignal s :: handled.log
        data := handled.value.2 })

/-- The last part of a wake-up: the watch goes if the conditions say so. -/
def conclude (revents : PollFlags) (quits : Bool) (h : Host α) : Reply α :=
  if revents.meets failing then .done .remove quits (h.report (.relayWatchFailed revents))
  else .done .goOn quits h

/-- One wake-up of the relay. -/
def dispatch (handler : Handler α) (d : Descriptor) (revents : PollFlags) (h : Host α) :
    Reply α :=
  if revents.readable then
    match receive h.pipes d with
    | (.error fault, pipes) => .aborted ({ h with pipes }.report (.relayCorrupted fault))
    | (.ok value, pipes) =>
      let (quits, h) := hand handler value { h with pipes }
      conclude revents quits h
  else conclude revents false h

end GadgetModes.Relay
