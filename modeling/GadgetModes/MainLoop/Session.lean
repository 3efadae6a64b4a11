import GadgetModes.MainLoop.Script

/-!
# Sessions with a main loop

A session is a loop in use, with pipes whose ends are either held or were moved into the
loop. Watches are numbered in the order in which they were added; their callbacks are
scripts.
-/

namespace GadgetModes

/-- A loop in use. -/
structure LoopSession where
  loop : MainLoop Script := {}
  host : Host (List Call) := { data := [] }
  /-- The ends of pipes that were neither closed nor moved into the loop. -/
  held : List Descriptor := []
  /-- The watches that were added, by their numbers. -/
  issued : List Nat := []

/-- What a session can be asked. -/
inductive LoopRequest where
  | pipe
  | write (pipe : Nat) (bytes : List UInt8)
  | close (descriptor : Descriptor)
  | addWatch (descriptor : Descriptor) (conditions : PollFlags) (script : Script)
  | removeWatch (number : Nat)
  | hasWatch (number : Nat)
  | iterate (timed : Bool)
  | run
  | quit

inductive LoopAnswer where
  | done
  | nothing
  /-- The end of a pipe that was asked for is not held. -/
  | notHeld
  | pipe (n : Nat)
  | written (outcome : Except Errno Nat)
  | truth (b : Bool)
  | watch (id : Nat)
  | iterated (outcome : Outcome Nat)
  | ran (outcome : Outcome Unit)

namespace LoopSession

def after {β : Type} (s : LoopSession) (turn : Turn Script (List Call) β) : LoopSession :=
  { s with loop := turn.loop, host := turn.host }

/-- Gives up an end of a pipe. -/
def letGo (s : LoopSession) (d : Descriptor) : LoopSession :=
  { s with held := s.held.filter (· ≠ d) }

def step (s : LoopSession) : LoopRequest → LoopAnswer × LoopSession
  | .pipe =>
    match s.host.createPipe with
    | .error _ => (.nothing, s)
    | .ok (n, host) => (.pipe n, { s with host, held := s.held ++ [⟨n, .read⟩, ⟨n, .write⟩] })
  | .write n bytes =>
    if s.held.contains ⟨n, .write⟩ then
      match s.host.pipes.write ⟨n, .write⟩ bytes with
      | .error e => (.written (.error e), s)
      | .ok pipes => (.written (.ok bytes.length), { s with host := { s.host with pipes } })
    else (.notHeld, s)
  | .close d =>
    if s.held.contains d then (.truth true, { s with host := s.host.close d }.letGo d)
    else (.truth false, s)
  | .addWatch d conditions script =>
    if s.held.contains d then
      let (id, loop, host) := s.loop.addWatch s.host d conditions
        { script with number := s.issued.length }
      (.watch id, { s with loop, host, issued := s.issued ++ [id] }.letGo d)
    else (.notHeld, s)
  | .removeWatch number =>
    match s.issued[number]? with
    | none => (.nothing, s)
    | some id =>
      let (removed, loop, host) := s.loop.removeWatch s.host id
      (.truth removed, { s with loop, host })
  | .hasWatch number =>
    match s.issued[number]? with
    | none => (.nothing, s)
    | some id => (.truth (s.loop.hasWatch id), s)
  | .iterate timed =>
    let turn := s.loop.iterate Script.act timed s.host
    (.iterated turn.outcome, s.after turn)
  | .run =>
    let turn := s.loop.run Script.act (Script.roundLimit s.loop) s.host
    (.ran turn.outcome, s.after turn)
  | .quit => (.done, { s with loop := s.loop.askQuit })

end LoopSession

end GadgetModes
