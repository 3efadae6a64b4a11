import GadgetModes.Catalog.Store
import GadgetModes.MainLoop.Run
import GadgetModes.Relay.Setup
import GadgetModes.Relay.Trap
import GadgetModes.Log.Filter

/-!
# The daemon at work

The daemon keeps a store of modes and waits for signals in its main loop. A hangup makes
it load the modes anew, from the directory that was chosen at the start; any other signal
that the relay hands over makes it stop. Signals may arrive at any time, and the files may
change at any time.
-/

namespace GadgetModes

open GadgetModes.Log

namespace Daemon

/-- What the callbacks of the daemon work on. -/
structure Data where
  store : Store
  files : FileSystem
  /-- Whether the diagnostic modes are the ones in use. -/
  diagnostic : Bool
deriving DecidableEq

def reportCatalog (c : Catalog) : Logged Unit :=
  if c.isEmpty then Logged.report .noUsableModes
  else ⟨(), c.modes.toList.map fun m => .availableMode m.name m.module m.source⟩

/-- What the daemon does with a signal that the relay hands over. -/
def handle : Relay.Handler Data := fun s data =>
  if s = .hangup then do
    Logged.report .reloading
    let store ← data.store.reload data.files data.diagnostic
    reportCatalog store.active
    return (false, { data with store })
  else do
    Logged.report (.shutdownSignal s)
    return (true, data)

/-- The callbacks of the daemon: there is one, that of the relay. -/
def act : Callbacks Unit Data := fun _ => Relay.dispatch handle

/-- How a process ended. -/
inductive Exit where
  | code (n : Nat)
  | signal (s : Signal)
deriving DecidableEq

end Daemon

/-- A daemon that was started; one that has ended is left as it was at its end. -/
structure Daemon where
  loop : MainLoop Unit := {}
  host : Host Daemon.Data
  filter : Log.Filter
  exit : Option Daemon.Exit := none
  /-- What it said when it failed. -/
  complaint : Option String := none

namespace Daemon

def isAlive (d : Daemon) : Bool :=
  d.exit.isNone

/-- The end of a run: the modes are given up. -/
def shutDown (d : Daemon) : Daemon :=
  { d with
    host := { d.host with
      log := d.host.log ++ [.shutdownComplete]
      data := { d.host.data with store := d.host.data.store.release } }
    exit := some (.code 0) }

/-- What is said about a failure that ends the daemon. -/
def complain (text : String) : String :=
  "Error: " ++ text

def failWith (d : Daemon) (text : String) : Daemon :=
  { d with exit := some (.code 1), complaint := some (complain text) }

def after (d : Daemon) (turn : Turn Unit Data Unit) : Daemon :=
  let d := { d with loop := turn.loop, host := turn.host }
  match turn.outcome with
  | .returned _ => d.shutDown
  | .failed failure => d.failWith failure.message
  | .aborted => { d with exit := some (.signal .abort) }
  | .asleep | .unfinished => d

/-- Goes on with the run of the main loop, for some rounds at most. -/
def advance (d : Daemon) (limit : Nat) : Daemon :=
  if d.isAlive then d.after (d.loop.rounds act limit d.host) else d

/-- How many rounds there are until the daemon waits: each takes a message off the pipe of
the relay. -/
def roundLimit (d : Daemon) : Nat :=
  d.host.pipes.byteCount + d.loop.watches.length + 1

/-- Goes on until the daemon waits or has ended. -/
def untilIdle (d : Daemon) : Daemon :=
  d.advance d.roundLimit

/-- Delivers a signal, and does nothing else. -/
def deliver (d : Daemon) (s : Signal) : Daemon :=
  if d.isAlive then
    match Relay.deliver d.host s with
    | .survived host => { d with host }
    | .died cause host => { d with host, exit := some (.signal cause) }
  else d

/-- Wakes a waiting daemon by a signal, if the signal is handled, and lets it work until it
waits again. -/
def wake (d : Daemon) (s : Signal) : Daemon :=
  let handled := d.isAlive && d.host.dispositions s = .relayed
  let d := d.deliver s
  if handled && d.isAlive then { d with host := MainLoop.interrupted d.host }.untilIdle else d

def changeFiles (d : Daemon) (f : FileSystem → FileSystem) : Daemon :=
  { d with host := { d.host with data := { d.host.data with files := f d.host.data.files } } }

def reported (d : Daemon) : List Event :=
  d.host.log.filter d.filter.passes

end Daemon

end GadgetModes
