import GadgetModes.Proofs.Relay.Invariant

/-!
# When the relay kills the process

Two kinds of signals kill the process: one that asks it to end after an earlier one did,
and any trapped signal after the watch of the relay was removed. Nothing that the loops do
ever does, since what they read from the pipe of the relay is a whole message of a signal,
and no error shows there while they watch it.
-/

namespace GadgetModes.Relay

open GadgetModes.Log GadgetModes.MainLoop

namespace Wired

variable {w : Wiring} {attached : Bool} {raised pending : List Signal} {s : Session}

/-- Whatever is ready in a loop is the pipe of the relay, with a message to read. -/
theorem ready (hw : Wired w attached raised pending s) (j : Fin 2) :
    ∀ x ∈ (s.loop j).ready s.host.pipes, x.2 = { readable := true }
      ∧ ∃ t left, pending = t :: left
        ∧ (receive s.host.pipes x.1.descriptor).1 = .ok (numberOf t) := by
  intro x hx
  rcases hw.serving_or_unwatched j with ⟨rfl, rfl⟩ | hnone
  · have hserves := hw.tied.serves
    obtain ⟨hrevents, hsome⟩ := hserves.ready x hx
    refine ⟨hrevents, ?_⟩
    have hdescriptor : x.1.descriptor = ⟨w.pipe, .read⟩ := by
      rw [MainLoop.ready, polled, hw.tied.watches] at hx
      obtain ⟨hx, -⟩ := List.mem_filter.mp hx
      rw [List.mem_singleton.mp hx]
      rfl
    cases pending with
    | nil => exact absurd rfl hsome
    | cons t left =>
        refine ⟨t, left, rfl, ?_⟩
        rw [hdescriptor, receive_wire hw.tied.pipe]
  · rw [MainLoop.ready, polled, hnone] at hx
    cases hx

/-- The write end is never closed; the read end is when the watch is gone. -/
theorem ends (hw : Wired w attached raised pending s) :
    s.host.pipes.isOpen ⟨w.pipe, .write⟩ = true
      ∧ s.host.pipes.isOpen ⟨w.pipe, .read⟩ = attached := by
  rw [Pipes.isOpen, Pipes.isOpen, hw.tied.pipe]
  exact ⟨rfl, rfl⟩

/-- A usual move kills the process by an abort, and only if it is fatal. -/
theorem move_dead_iff (hw : Wired w attached raised pending s) {m : Move} (hm : m.Usual)
    (cause : Signal) :
    s.move m = .dead cause ↔ cause = .abort ∧ Move.Fatal attached raised m := by
  rcases hw.move hm with ⟨hfatal, hdead⟩ | ⟨hnot, answer, s', left, halive, -⟩
  · rw [hdead]
    constructor
    · intro h
      exact ⟨(Stepped.dead.inj h).symm, hfatal⟩
    · rintro ⟨rfl, -⟩
      rfl
  · rw [halive]
    constructor
    · intro h
      cases h
    · rintro ⟨-, hfatal⟩
      exact absurd hfatal hnot

end Wired

/-- What can kill a process after any history that it survived, and what holds of the
relay until then. -/
theorem dies_iff {s₀ s₁ s : Session} {i : Fin 2} {r : Recorder} {id : Nat}
    {moves : List Move} (hfresh : s₀.Fresh)
    (hsetUp : s₀.step (.setUp i r) = .alive (.watch id) s₁) (husual : ∀ m ∈ moves, m.Usual)
    (hplay : s₁.play moves = some s) :
    (∀ m : Move, m.Usual → ∀ cause, s.move m = .dead cause ↔
        cause = .abort ∧ ∃ t, m = .ask (.raise t)
          ∧ ((t ∈ terminating ∧ ∃ u ∈ raisedBy moves, u ∈ terminating)
            ∨ ∃ m ∈ moves, m.removes i = true))
      ∧ (∃ n, s.host.relay.writeEnd = some ⟨n, .write⟩
          ∧ s.host.pipes.isOpen ⟨n, .write⟩ = true
          ∧ (s.host.pipes.isOpen ⟨n, .read⟩ = false ↔ ∃ m ∈ moves, m.removes i = true))
      ∧ (∀ j : Fin 2, ∀ x ∈ (s.loop j).ready s.host.pipes, x.2 = { readable := true }
          ∧ ∃ t left, s.pending = t :: left
            ∧ (receive s.host.pipes x.1.descriptor).1 = .ok (numberOf t))
      ∧ s.host.log.filter Event.isRelayFault = s₁.host.log.filter Event.isRelayFault
      ∧ s.host.relay.escalation.count.toNat = (raisedBy moves).countP (· ∈ terminating)
      ∧ s.host.relay.escalation.count.toNat ≤ 1 := by
  obtain ⟨w, rfl, rfl, hfaults, hwired⟩ := wired_of_setUp hfresh hsetUp
  obtain ⟨pending, hw⟩ := hwired.play husual hplay
  rw [Bool.true_and, List.nil_append] at hw
  have hremoved : (!moves.any (·.removes w.loop)) = false ↔
      ∃ m ∈ moves, m.removes w.loop = true := by simp
  refine ⟨?_, ⟨w.pipe, hw.tied.writeEnd, hw.ends.1, ?_⟩, ?_, ?_, hw.tied.counted, ?_⟩
  · intro m hm cause
    rw [hw.move_dead_iff hm, Move.Fatal, hremoved]
  · rw [hw.ends.2, hremoved]
  · rw [hw.pending_eq]
    exact hw.ready
  · rw [hw.tied.faults, hfaults]
  · rw [hw.tied.counted]
    exact hw.tied.bounded

/-- An interrupt that was handled, and a watch that was removed. -/
def interruptAndRemoval (i : Fin 2) : List Move :=
  [.ask (.raise .interrupt), .ask (.iterate i), .ask (.removeWatch i 0)]

/-- After that even a hangup is fatal. -/
theorem dies_iff_interruptAndRemoval :
    ∃ id s₁ s, ({} : Session).step (.setUp 0 {}) = .alive (.watch id) s₁
      ∧ s₁.play (interruptAndRemoval 0) = some s
      ∧ s.move (.ask (.raise .hangup)) = .dead .abort
      ∧ s.host.relay.escalation.count.toNat = 1 := by
  have hsome : (({} : Session).history 0 {} (interruptAndRemoval 0)).isSome = true := by
    decide +kernel
  obtain ⟨s, hs⟩ := Option.isSome_iff_exists.mp hsome
  obtain ⟨id, s₁, hsetUp, hplay⟩ := Session.of_history hs
  have husual : ∀ m ∈ interruptAndRemoval 0, m.Usual := by
    simp only [interruptAndRemoval, List.forall_mem_cons]
    exact ⟨.raise (by decide), .iterate 0, .removeWatch 0 0, by simp⟩
  obtain ⟨hdies, -, -, -, hcount, -⟩ := dies_iff Session.fresh_start hsetUp husual hplay
  refine ⟨id, s₁, s, hsetUp, hplay, ?_, hcount⟩
  rw [hdies _ (.raise (by decide))]
  have hremoval : .ask (.removeWatch 0 0) ∈ interruptAndRemoval 0 := by
    simp [interruptAndRemoval]
  exact ⟨rfl, .hangup, rfl, .inr ⟨_, hremoval, rfl⟩⟩

end GadgetModes.Relay
