import GadgetModes.Daemon.Start
import GadgetModes.Proofs.Daemon.Handler

/-!
# Histories of the daemon

What happens to a daemon from its start on is a list of moves. A run of the main loop is
taken apart into its rounds and the looks that it takes, before each round, at whether it was
asked to quit (`advance_eq_play`). So signals can arrive and files can change between any two
rounds, while the loop sleeps, and when it was asked to quit and has not returned yet.
-/

namespace GadgetModes

open GadgetModes.Log GadgetModes.MainLoop

namespace Daemon

/-! ## What is seen of a daemon -/

/-- The signals that were handed over, in order, as the log tells. -/
def handled (d : Daemon) : List Signal :=
  d.host.log.filterMap Event.relayed?

/-- The bytes that the relay wrote and nobody read. -/
def unread (d : Daemon) : List UInt8 :=
  (d.host.relay.writeEnd.bind fun e => d.host.pipes.pipe? e.pipe).elim [] (·.buffered)

/-- The signals that the unread bytes stand for. -/
def pending (d : Daemon) : List Signal :=
  Relay.signalsOf d.unread

/-- All catalogs that were ever active, the active one last. -/
def catalogs (d : Daemon) : List Catalog :=
  d.host.data.store.retired ++ [d.host.data.store.active]

/-! ## Moves -/

/-- One round of the main loop, if it was not asked to quit. -/
def round (d : Daemon) : Daemon :=
  if d.isAlive && !d.loop.quit then
    let turn := d.loop.iterate act false d.host
    match turn.outcome with
    | .returned _ => { d with loop := turn.loop, host := turn.host }
    | .failed failure => d.after ⟨.failed failure, turn.loop, turn.host⟩
    | .aborted => d.after ⟨.aborted, turn.loop, turn.host⟩
    | .asleep | .unfinished => d
  else d

/-- What can happen next to a daemon. -/
inductive Move where
  | deliver (signal : Signal)
  | round
  /-- The main loop looks whether it is to go on, and returns if it is not. -/
  | look
  /-- A signal wakes the sleeping loop. -/
  | wake
  | changeFiles (change : FileSystem → FileSystem)

def Move.delivers : Move → List Signal
  | .deliver t => [t]
  | _ => []

def Move.filesAfter (fs : FileSystem) : Move → FileSystem
  | .changeFiles change => change fs
  | _ => fs

def move (d : Daemon) : Move → Daemon
  | .deliver t => d.deliver t
  | .round => d.round
  | .look => d.advance 0
  | .wake => if d.isAlive then { d with host := MainLoop.interrupted d.host } else d
  | .changeFiles change => d.changeFiles change

def play (d : Daemon) (moves : List Move) : Daemon :=
  moves.foldl move d

/-- The signals that a move delivers to a daemon, if it is alive. -/
def delivers (d : Daemon) (m : Move) : List Signal :=
  if d.isAlive then m.delivers else []

/-- What is loaded, from the files as they are then, if a move hands a hangup over. -/
def reloadsAt (load : FileSystem → Catalog) (d : Daemon) (m : Move) : List Catalog :=
  if (d.move m).handled = d.handled ++ [.hangup] then [load d.host.data.files] else []

def delivered : Daemon → List Move → List Signal
  | _, [] => []
  | d, m :: moves => d.delivers m ++ delivered (d.move m) moves

/-- What is loaded for the hangups that are handed over in a history. -/
def reloads (load : FileSystem → Catalog) : Daemon → List Move → List Catalog
  | _, [] => []
  | d, m :: moves => d.reloadsAt load m ++ reloads load (d.move m) moves

theorem reloadsAt_of_handled {load : FileSystem → Catalog} {d : Daemon} {m : Move}
    (h : (d.move m).handled = d.handled) : d.reloadsAt load m = [] := by
  simp [reloadsAt, h]

/-! ## Runs as moves -/

theorem advance_of_not_isAlive {d : Daemon} (h : d.isAlive = false) (limit : Nat) :
    d.advance limit = d := by
  rw [advance, h]
  rfl

theorem advance_of_asleep {d : Daemon} (hquit : d.loop.quit = false)
    (hwatches : d.loop.watches ≠ [])
    (h : d.loop.iterate act false d.host = ⟨.asleep, d.loop, d.host⟩) (limit : Nat) :
    d.advance limit = d := by
  rw [advance]
  split
  · cases limit with
    | zero => rw [rounds, if_neg (by simp [hquit]), if_neg (by simp [hwatches])]; rfl
    | succ limit =>
        rw [rounds, if_neg (by simp [hquit]), if_neg (by simp [hwatches])]
        simp only [h]
        rfl
  · rfl

/-- A part of a run is a round and a part of a run with one round less. -/
theorem advance_succ (d : Daemon) (limit : Nat) :
    d.advance (limit + 1) = d.round.advance limit := by
  cases halive : d.isAlive with
  | false =>
      rw [round, halive, Bool.false_and, if_neg Bool.false_ne_true,
        advance_of_not_isAlive halive, advance_of_not_isAlive halive]
  | true =>
  cases hquit : d.loop.quit with
  | true =>
      rw [round, hquit, Bool.not_true, Bool.and_false, if_neg Bool.false_ne_true, advance,
        advance, rounds_quit hquit, rounds_quit hquit]
  | false =>
  by_cases hwatches : d.loop.watches = []
  · rw [round, halive, hquit, iterate_unwatched hwatches]
    show d.advance (limit + 1) = d.advance limit
    rw [advance, advance, rounds_unwatched hwatches, rounds_unwatched hwatches]
  · rw [round, halive, hquit, Bool.not_false, Bool.and_self, if_pos rfl]
    rcases iterate_cases act false d.loop d.host with
      ⟨-, outcome, hround, rfl | rfl | rfl⟩ | ⟨-, h', -, hround⟩ | ⟨-, s, -, hround⟩
    -- A round that does not return ends the part of the run, and a later look changes nothing.
    all_goals
      rw [advance, halive, if_pos rfl, rounds, if_neg (by simp [hquit]),
        if_neg (by simp [hwatches])]
      simp only [hround]
    · rw [advance, halive, if_pos rfl]
    · exact (advance_of_asleep hquit hwatches hround limit).symm
    · rw [advance_of_not_isAlive (by rfl)]
    · rw [advance_of_not_isAlive (by rfl)]
    · have hnext : ∀ l h, { d with loop := l, host := h }.isAlive = true := fun _ _ => halive
      rw [advance, hnext, if_pos rfl]
      rfl

/-- A part of a run is made of as many rounds and a look. -/
theorem advance_eq_play (d : Daemon) (limit : Nat) :
    d.advance limit = d.play (List.replicate limit .round ++ [.look]) := by
  induction limit generalizing d with
  | zero => rfl
  | succ limit ih =>
      rw [advance_succ, ih]
      rfl

end Daemon

end GadgetModes
