import GadgetModes.Proofs.Relay.Messages
import GadgetModes.Relay.Session

/-!
# Histories of a session

What happens after the relay was set up is a list of moves. A move is a request, or a part
of a run: a run may stop after any of its rounds and go on later, so signals can arrive
between any two rounds, and while the loop sleeps. `Session.play` makes the moves one
after the other as long as the process lives.
-/

namespace GadgetModes

open GadgetModes.Log

/-- Whether an event says that the relay does not work: that a message was cut short or
not read, that a message was no signal, or that a descriptor is in error. -/
def Log.Event.isRelayFault : Event → Bool
  | .relayCorrupted _ | .unknownSignal _ | .relayWatchFailed _ => true
  | _ => false

namespace Relay

/-- The signals that ask a process to end. -/
def terminating : List Signal :=
  [.interrupt, .quit, .terminate]

/-! ## Moves -/

inductive Move where
  | ask (request : Request)
  /-- A run of a loop starts, and makes a number of rounds at most. -/
  | begin (loop : Fin 2) (limit : Nat)
  /-- A run goes on for a number of rounds at most. -/
  | goOn (loop : Fin 2) (limit : Nat)
  /-- A signal wakes a loop that sleeps. -/
  | wake

/-- What a history of the relay is made of: trapped signals, rounds and runs of both loops,
further attempts to set the relay up, and the removal of watches. -/
inductive Move.Usual : Move → Prop where
  | raise {t : Signal} (ht : t ∈ trapped) : Usual (.ask (.raise t))
  | iterate (j : Fin 2) : Usual (.ask (.iterate j))
  | run (j : Fin 2) : Usual (.ask (.run j))
  | setUp (j : Fin 2) (r : Recorder) : Usual (.ask (.setUp j r))
  | removeWatch (j : Fin 2) (number : Nat) : Usual (.ask (.removeWatch j number))
  | hasWatch (j : Fin 2) (number : Nat) : Usual (.ask (.hasWatch j number))
  | begin (j : Fin 2) (limit : Nat) : Usual (.begin j limit)
  | goOn (j : Fin 2) (limit : Nat) : Usual (.goOn j limit)
  | wake : Usual .wake

def Move.raises : Move → List Signal
  | .ask (.raise t) => [t]
  | _ => []

def raisedBy (moves : List Move) : List Signal :=
  moves.flatMap Move.raises

/-- Whether a move takes the first watch that was numbered off a loop. -/
def Move.removes (i : Fin 2) : Move → Bool
  | .ask (.removeWatch j 0) => j = i
  | _ => false

namespace Session

def ranTo (s : Session) (i : Fin 2) (turn : Turn Recorder (List Signal) Unit) : Stepped :=
  match turn.outcome with
  | .aborted => .dead .abort
  | outcome => .alive (.ran outcome) (s.after i turn)

def move (s : Session) : Move → Stepped
  | .ask request => s.step request
  | .begin i limit => s.ranTo i ((s.loop i).run Recorder.act limit s.host)
  | .goOn i limit => s.ranTo i ((s.loop i).rounds Recorder.act limit s.host)
  | .wake => .alive .done { s with host := MainLoop.interrupted s.host }

/-- Makes moves in order; gives no session when the process died of one of them. -/
def play : Session → List Move → Option Session
  | s, [] => some s
  | s, m :: moves =>
    match s.move m with
    | .alive _ s => s.play moves
    | .dead _ => none

/-- Sets the relay up and makes moves from there on; gives no session when the relay was
not set up. -/
def history (s : Session) (i : Fin 2) (r : Recorder) (moves : List Move) : Option Session :=
  match s.step (.setUp i r) with
  | .alive (.watch _) s => s.play moves
  | _ => none

theorem of_history {s₀ s : Session} {i : Fin 2} {r : Recorder} {moves : List Move}
    (h : s₀.history i r moves = some s) :
    ∃ id s₁, s₀.step (.setUp i r) = .alive (.watch id) s₁ ∧ s₁.play moves = some s := by
  rw [history] at h
  split at h
  · next id s₁ hstep => exact ⟨id, s₁, hstep, h⟩
  · cases h

/-- The request to run is a run of as many rounds as it can take. -/
theorem move_run (s : Session) (i : Fin 2) :
    s.move (.ask (.run i)) = s.move (.begin i (s.roundLimit i)) := rfl

/-! ## What is in the pipe -/

/-- The bytes that the relay wrote and nobody read. -/
def unread (s : Session) : List UInt8 :=
  (s.host.relay.writeEnd.bind fun d => s.host.pipes.pipe? d.pipe).elim [] (·.buffered)

/-- The signals that the unread bytes stand for. -/
def pending (s : Session) : List Signal :=
  signalsOf s.unread

end Session

/-- The signals, of those that are pending, that a run hands over: up to the first at which
the handler asks to quit. -/
def Recorder.batch (r : Recorder) : List Signal → List Signal
  | [] => []
  | t :: left => if r.quitsOn.contains t then [t] else t :: r.batch left

/-! ## Before the relay is set up -/

/-- A session in which nothing is watched, no watch was ever numbered, and neither the
handlers nor the relay have seen a signal. Processes whose loops watch for others too have
`Process.Fresh`. -/
structure Session.Fresh (s : Session) : Prop where
  watches : ∀ j : Fin 2, (s.loop j).watches = []
  issued : s.issued = []
  handled : s.handled = []
  count : s.host.relay.escalation.count = 0

/-- A process that was just started. -/
theorem Session.fresh_start : ({} : Session).Fresh where
  watches := by decide
  issued := rfl
  handled := rfl
  count := rfl

end Relay

end GadgetModes
