import GadgetModes.Host.Errno
import GadgetModes.Host.PollFlags

/-!
# Pipes

Pipes by number, and descriptors for their ends. Bytes leave a pipe in the order in
which they were written. Reading never waits: an empty pipe that can still be written
says so. Whoever writes to a pipe that nobody can read is told by an error and not by a
signal.

A pipe is assumed to have room for every write, where the kernel keeps 64 KiB for it: a
write is never cut short or refused for want of room, and a poll always finds a write end
writable.
-/

namespace GadgetModes

/-- The two ends of a pipe. -/
inductive Side where
  | read
  | write
deriving DecidableEq

/-- A descriptor for one end of a pipe. -/
structure Descriptor where
  pipe : Nat
  side : Side
deriving DecidableEq

/-- A pipe: the bytes in it, and which of its ends are open. -/
structure Pipe where
  buffered : List UInt8 := []
  readOpen : Bool := true
  writeOpen : Bool := true
deriving DecidableEq

namespace Pipe

def isOpen (p : Pipe) : Side → Bool
  | .read => p.readOpen
  | .write => p.writeOpen

def close (p : Pipe) : Side → Pipe
  | .read => { p with readOpen := false }
  | .write => { p with writeOpen := false }

/-- The conditions of an end, whatever was asked for. -/
def conditions (p : Pipe) : Side → PollFlags
  | .read => { readable := !p.buffered.isEmpty, hangup := !p.writeOpen }
  | .write => { writable := true, error := !p.readOpen }

/-- The conditions of an end that a poll reports: those asked for, and errors and hangups
in any case. -/
def polled (p : Pipe) (side : Side) (asked : PollFlags) : PollFlags :=
  (p.conditions side).inter { asked with error := true, hangup := true, invalid := true }

end Pipe

/-- All pipes that were made, by number. -/
structure Pipes where
  all : List Pipe := []
deriving DecidableEq

namespace Pipes

/-- Makes a pipe; its number is the first unused one. -/
def create (ps : Pipes) : Nat × Pipes :=
  (ps.all.length, ⟨ps.all ++ [({} : Pipe)]⟩)

/-- A pipe by its number. -/
def pipe? (ps : Pipes) (n : Nat) : Option Pipe :=
  ps.all[n]?

/-- Puts a pipe in the place of the one with this number. -/
def set (ps : Pipes) (n : Nat) (p : Pipe) : Pipes :=
  ⟨ps.all.set n p⟩

def isOpen (ps : Pipes) (d : Descriptor) : Bool :=
  (ps.pipe? d.pipe).any (·.isOpen d.side)

def close (ps : Pipes) (d : Descriptor) : Pipes :=
  match ps.pipe? d.pipe with
  | some p => ps.set d.pipe (p.close d.side)
  | none => ps

/-- How many descriptors are open. -/
def openCount (ps : Pipes) : Nat :=
  ps.all.foldl (fun n p => n + p.readOpen.toNat + p.writeOpen.toNat) 0

/-- How many bytes are in all pipes. -/
def byteCount (ps : Pipes) : Nat :=
  ps.all.foldl (fun n p => n + p.buffered.length) 0

/-- The pipe behind an open descriptor for this side. -/
def openPipe? (ps : Pipes) (d : Descriptor) (side : Side) : Option Pipe :=
  if d.side = side then (ps.pipe? d.pipe).filter (·.isOpen side) else none

/-- Writes bytes, all of them or none. Writing nothing succeeds on every open write end. -/
def write (ps : Pipes) (d : Descriptor) (bytes : List UInt8) : Except Errno Pipes :=
  match ps.openPipe? d .write with
  | none => .error .badDescriptor
  | some p =>
    if bytes.isEmpty then .ok ps
    else if p.readOpen then .ok (ps.set d.pipe { p with buffered := p.buffered ++ bytes })
    else .error .brokenPipe

/-- Reads up to `count` bytes. No bytes mean that the end of the data was reached. -/
def read (ps : Pipes) (d : Descriptor) (count : Nat) : Except Errno (List UInt8 × Pipes) :=
  match ps.openPipe? d .read with
  | none => .error .badDescriptor
  | some p =>
    if p.buffered.isEmpty && p.writeOpen && 0 < count then .error .wouldBlock
    else .ok (p.buffered.take count,
      ps.set d.pipe { p with buffered := p.buffered.drop count })

/-- The conditions that a poll reports for a descriptor. -/
def poll (ps : Pipes) (d : Descriptor) (asked : PollFlags) : PollFlags :=
  match ps.pipe? d.pipe with
  | some p => if p.isOpen d.side then p.polled d.side asked else { invalid := true }
  | none => { invalid := true }

end Pipes

end GadgetModes
