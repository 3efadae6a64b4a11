import GadgetModes.MainLoop.Run
import GadgetModes.Relay.Setup
import GadgetModes.Relay.Trap

/-!
# Sessions with the relay

A session is a process with two main loops and the relay. Handlers write down the signals
they are given, and ask their loop to quit at some of them. Besides the pipe of the relay
there may be one of the session's own, whose read end can be dispatched by hand or
watched.
-/

namespace GadgetModes.Relay

/-- The callback of a watch: the signals at which its loop is to quit. -/
structure Recorder where
  quitsOn : List Signal := []
deriving DecidableEq

/-- Writes a signal down. -/
def Recorder.handle (r : Recorder) : Handler (List Signal) := fun s handled =>
  return (r.quitsOn.contains s, handled ++ [s])

def Recorder.act : Callbacks Recorder (List Signal) := fun r => dispatch r.handle

/-- A process with two main loops. -/
structure Session where
  loops : Vector (MainLoop Recorder) 2 := #v[{}, {}]
  host : Host (List Signal) := { data := [] }
  /-- The ends of the session's own pipe that are held. -/
  readEnd : Option Descriptor := none
  writeEnd : Option Descriptor := none
  /-- The watches that were added, by their numbers. -/
  issued : List Nat := []

/-- What a session can be asked; most of it is about one of the loops. -/
inductive Request where
  | setUp (loop : Fin 2) (recorder : Recorder)
  | raise (signal : Signal)
  | iterate (loop : Fin 2)
  | run (loop : Fin 2)
  | removeWatch (loop : Fin 2) (number : Nat)
  | hasWatch (loop : Fin 2) (number : Nat)
  | limitFiles (value : Nat)
  | refuse (signal : Signal)
  | pipe
  | send (value : Int32)
  | write (bytes : List UInt8)
  | closeWrite
  | dispatch (revents : PollFlags) (recorder : Recorder)
  | watchPipe (loop : Fin 2) (recorder : Recorder)

inductive Answer where
  | done
  | nothing
  /-- There is no such end of a pipe. -/
  | notHeld
  | failed (failure : Failure)
  | watch (id : Nat)
  | iterated (outcome : Outcome Nat)
  | ran (outcome : Outcome Unit)
  | truth (b : Bool)
  | sent (outcome : Except TransferFault Unit)
  | written (outcome : Except Errno Nat)
  | action (action : Action)

/-- An answer with the session afterwards, or the signal that ended the process. -/
inductive Stepped where
  | alive (answer : Answer) (session : Session)
  | dead (cause : Signal)

namespace Session

def handled (s : Session) : List Signal :=
  s.host.data

def loop (s : Session) (i : Fin 2) : MainLoop Recorder :=
  s.loops[i]

/-- A session with another loop in the place of one of its loops, and another host. -/
def withLoop (s : Session) (i : Fin 2) (loop : MainLoop Recorder)
    (host : Host (List Signal)) : Session :=
  { s with loops := s.loops.set i loop, host }

def after {β : Type} (s : Session) (i : Fin 2) (turn : Turn Recorder (List Signal) β) :
    Session :=
  s.withLoop i turn.loop turn.host

/-- How many rounds a run can take: each takes a message off a pipe or removes a watch. -/
def roundLimit (s : Session) (i : Fin 2) : Nat :=
  s.host.pipes.byteCount + (s.loop i).watches.length + 1

def dropPipe (s : Session) : Session :=
  { s with
    host := (s.readEnd.toList ++ s.writeEnd.toList).foldl Host.close s.host
    readEnd := none
    writeEnd := none }

def step (s : Session) : Request → Stepped
  | .setUp i recorder =>
    let turn := Relay.setUp recorder (s.loop i) s.host
    match turn.outcome with
    | .returned id => .alive (.watch id) { s.after i turn with issued := s.issued ++ [id] }
    | .failed failure => .alive (.failed failure) (s.after i turn)
    | _ => .alive .nothing (s.after i turn)
  | .raise signal =>
    match deliver s.host signal with
    | .survived host => .alive .done { s with host }
    | .died cause _ => .dead cause
  | .iterate i =>
    let turn := (s.loop i).iterate Recorder.act true s.host
    match turn.outcome with
    | .aborted => .dead .abort
    | outcome => .alive (.iterated outcome) (s.after i turn)
  | .run i =>
    let turn := (s.loop i).run Recorder.act (s.roundLimit i) s.host
    match turn.outcome with
    | .aborted => .dead .abort
    | outcome => .alive (.ran outcome) (s.after i turn)
  | .removeWatch i number =>
    match s.issued[number]? with
    | none => .alive .nothing s
    | some id =>
      let (removed, loop, host) := (s.loop i).removeWatch s.host id
      .alive (.truth removed) (s.withLoop i loop host)
  | .hasWatch i number =>
    match s.issued[number]? with
    | none => .alive .nothing s
    | some id => .alive (.truth ((s.loop i).hasWatch id)) s
  | .limitFiles value => .alive .done { s with host := { s.host with fileLimit := value } }
  | .refuse signal =>
    .alive .done { s with host := { s.host with refused := signal :: s.host.refused } }
  | .pipe =>
    match s.host.createPipe with
    | .error e => .alive (.failed (.system e)) s
    | .ok (n, host) =>
      .alive .done
        { { s with host }.dropPipe with
          readEnd := some ⟨n, .read⟩
          writeEnd := some ⟨n, .write⟩ }
  | .send value =>
    match Relay.send s.host.pipes s.writeEnd value with
    | .error fault => .alive (.sent (.error fault)) s
    | .ok pipes => .alive (.sent (.ok ())) { s with host := { s.host with pipes } }
  | .write bytes =>
    match s.writeEnd with
    | none => .alive .notHeld s
    | some d =>
      match s.host.pipes.write d bytes with
      | .error e => .alive (.written (.error e)) s
      | .ok pipes => .alive (.written (.ok bytes.length)) { s with host := { s.host with pipes } }
  | .closeWrite =>
    match s.writeEnd with
    | none => .alive (.truth false) s
    | some d => .alive (.truth true) { s with host := s.host.close d, writeEnd := none }
  | .dispatch revents recorder =>
    match s.readEnd with
    | none => .alive .notHeld s
    | some d =>
      match Relay.dispatch recorder.handle d revents s.host with
      | .aborted _ => .dead .abort
      | .done action _ host => .alive (.action action) { s with host }
  | .watchPipe i recorder =>
    match s.readEnd with
    | none => .alive .notHeld s
    | some d =>
      let (id, loop, host) := (s.loop i).addWatch s.host d conditions recorder
      .alive (.watch id)
        { s.withLoop i loop host with readEnd := none, issued := s.issued ++ [id] }

end Session

end GadgetModes.Relay
