import GadgetModes.Daemon.Basic
import GadgetModes.Proofs.Relay.Wiring

/-!
# What the daemon does with a signal

A hangup makes the daemon load its modes anew, any other signal makes it ask its loop to quit
(`Daemon.handle_value`). Whatever it reports on the way, it does not say that another signal
is handed over (`Daemon.quiet_handle`). So the log tells which signals were.
-/

namespace GadgetModes

open GadgetModes.Log GadgetModes.Relay

/-- The signal that an event says is handed over. -/
def Log.Event.relayed? : Event → Option Signal
  | .relayingSignal s => some s
  | _ => none

/-! ## What is reported on the way -/

namespace Log.Logged

variable {α β : Type} {x : Logged α} {f : α → Logged β}

/-- Nothing that is reported says that a signal is handed over. -/
def Quiet (x : Logged α) : Prop :=
  x.log.filterMap Event.relayed? = []

theorem quiet_pure (a : α) : (pure a : Logged α).Quiet := rfl

theorem quiet_report {e : Event} (he : e.relayed? = none) : (report e).Quiet := by
  simp [Quiet, he]

theorem Quiet.bind (hx : x.Quiet) (hf : (f x.value).Quiet) : (x >>= f).Quiet := by
  rw [Quiet] at hx hf ⊢
  rw [log_bind, List.filterMap_append, hx, hf]
  rfl

end Log.Logged

open Logged

theorem Mode.Record.quiet_build (source : String) (fields : Mode.Fields) :
    (build source fields).Quiet := by
  refine Quiet.bind ?_ (quiet_pure _)
  rw [Mode.Fields.validate]
  split
  · exact (quiet_report rfl).bind (quiet_pure _)
  · exact quiet_pure _

theorem Mode.Record.quiet_load (options : Mode.Options) (fs : FileSystem) (path : String) :
    (load options fs path).Quiet := by
  have hrejected : ∀ rejection, (rejectionEvent path rejection).relayed? = none := by
    intro rejection
    cases rejection <;> rfl
  rw [load]
  refine (quiet_report rfl).bind ?_
  cases Mode.Description.ofFile options fs path with
  | error rejection =>
      exact (quiet_pure _).bind ((quiet_report (hrejected rejection)).bind (quiet_pure _))
  | ok fields =>
      refine (quiet_build path fields).bind ?_
      generalize (build path fields).value = outcome
      cases outcome with
      | ok record => exact (quiet_report rfl).bind (quiet_pure _)
      | error rejection => exact (quiet_report (hrejected rejection)).bind (quiet_pure _)

theorem Scanner.quiet_scanEntries (s : Scanner) (fs : FileSystem) (dir : String)
    (names : List String) : (s.scanEntries fs dir names).Quiet := by
  induction names with
  | nil => exact quiet_pure _
  | cons name names ih =>
      refine Quiet.bind ?_ (ih.bind (quiet_pure _))
      rw [scanEntry]
      split
      · exact Mode.Record.quiet_load ..
      · exact (quiet_report rfl).bind (quiet_pure _)

theorem Catalog.quiet_build (s : Scanner) (fs : FileSystem) (diagnostic : Bool) :
    (build s fs diagnostic).Quiet := by
  refine Quiet.bind ?_ ((quiet_report rfl).bind (quiet_pure _))
  rw [Scanner.scan, Scanner.scanDir]
  split
  · exact (quiet_report rfl).bind (quiet_pure _)
  · exact (s.quiet_scanEntries ..).bind ((quiet_report rfl).bind (quiet_pure _))

theorem Store.quiet_reload (s : Store) (fs : FileSystem) (diagnostic : Bool) :
    (s.reload fs diagnostic).Quiet :=
  (Catalog.quiet_build ..).bind ((quiet_report rfl).bind (quiet_pure _))

namespace Daemon

theorem quiet_reportCatalog (c : Catalog) : (reportCatalog c).Quiet := by
  rw [reportCatalog]
  split
  · exact quiet_report rfl
  · simp [Quiet, List.filterMap_map, Function.comp_def, Event.relayed?]

/-! ## The handler -/

theorem quiet_handle (t : Signal) (data : Data) : (handle t data).Quiet := by
  rw [handle]
  split
  · exact (quiet_report rfl).bind ((Store.quiet_reload ..).bind
      ((quiet_reportCatalog _).bind (quiet_pure _)))
  · exact (quiet_report rfl).bind (quiet_pure _)

def loads (scanner : Scanner) (diagnostic : Bool) (fs : FileSystem) : Catalog :=
  (Catalog.build scanner fs diagnostic).value

theorem handle_value (t : Signal) (data : Data) :
    (handle t data).value =
      if t = .hangup then
        (false, { data with
          store := data.store.replace (loads data.store.scanner data.diagnostic data.files) })
      else (true, data) := by
  rw [handle]
  split <;> rfl

theorem mem_terminating_iff {t : Signal} (ht : t ∈ trapped) :
    t ∈ terminating ↔ t ≠ .hangup := by
  simp only [trapped, List.mem_cons, List.not_mem_nil, or_false] at ht
  rcases ht with rfl | rfl | rfl | rfl <;> decide

end Daemon

end GadgetModes
