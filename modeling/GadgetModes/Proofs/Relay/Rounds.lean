import GadgetModes.Proofs.Relay.WakeUps

/-!
# Rounds on the pipe of the relay

A loop serves the relay when its one watch is on the read end of a pipe that holds whole
messages (`Serves`). A round of it hands over the oldest signal in the pipe, and none if
there is none (`iterate_oldest`, `iterate_idle`). A run goes on until a handler asks
to quit, or until it sleeps because the pipe is empty (`rounds_eq_workOff`).

The handler is arbitrary here: it may keep any data, report anything, and ask to quit at
any signal.
-/

namespace GadgetModes

open GadgetModes.Log

/-! ## One message -/

namespace Relay

open MainLoop

variable {κ α : Type} {act : Callbacks κ α} {handler : Handler α} {n : Nat}
  {s : Signal} {pending : List Signal} {l : MainLoop κ} {h : Host α}

/-- The host after a signal was taken off the pipe, others being left there, and handed to
the handler. -/
def handOver (handler : Handler α) (n : Nat) (s : Signal) (left : List Signal)
    (h : Host α) : Host α :=
  { h with
    pipes := h.pipes.set n ⟨wire left, true, true⟩
    log := h.log ++ .relayingSignal s :: (handler s h.data).log
    data := (handler s h.data).value.2 }

theorem takeOff_numberOf (handler : Handler α) (n : Nat) (s : Signal) (left : List Signal)
    (h : Host α) :
    takeOff handler n (numberOf s) ⟨wire left, true, true⟩ h = handOver handler n s left h := by
  rw [takeOff, heed_numberOf]
  rfl

theorem receive_wire {left : List Signal} {ps : Pipes}
    (hpipe : ps.pipe? n = some ⟨wire (s :: left), true, true⟩) :
    receive ps ⟨n, .read⟩ = (.ok (numberOf s), ps.set n ⟨wire left, true, true⟩) :=
  receive_encode hpipe rfl (wire_cons s left)

theorem dispatch_wire {left : List Signal}
    (hpipe : h.pipes.pipe? n = some ⟨wire (s :: left), true, true⟩) :
    dispatch handler ⟨n, .read⟩ { readable := true } h =
      .done .goOn (handler s h.data).value.1 (handOver handler n s left h) := by
  have hdispatch : dispatch handler ⟨n, .read⟩ { readable := true } h = _ :=
    dispatch_encode hpipe rfl (wire_cons s left)
  rw [hdispatch, takeOff_numberOf, heed_numberOf]
  rfl

/-! ## One round -/

/-- A loop whose one watch hands the signals of a pipe to a handler, with those that are
in the pipe. -/
structure Serves (act : Callbacks κ α) (handler : Handler α) (n : Nat)
    (pending : List Signal) (l : MainLoop κ) (h : Host α) : Prop where
  watch : ∃ id k, l.watches = [⟨id, ⟨n, .read⟩, conditions, k⟩] ∧ act k = dispatch handler
  pipe : h.pipes.pipe? n = some ⟨wire pending, true, true⟩
  fileLimit : 1 ≤ h.fileLimit

theorem Serves.listens (hs : Serves act handler n pending l h) :
    ∃ id, Listens act handler n id ⟨wire pending, true, true⟩ l h := by
  obtain ⟨id, k, hw, hk⟩ := hs.watch
  exact ⟨id, ⟨k, hw, hk⟩, hs.pipe, rfl, hs.fileLimit⟩

/-- The only condition that is ever reported is that there is something to read. -/
theorem Serves.ready (hs : Serves act handler n pending l h) :
    ∀ x ∈ l.ready h.pipes, x.2 = { readable := true } ∧ pending ≠ [] := by
  obtain ⟨id, hl⟩ := hs.listens
  intro x hx
  rw [hl.ready] at hx
  cases pending with
  | nil => cases hx
  | cons s left =>
      obtain ⟨w, -, rfl⟩ := List.mem_map.mp hx
      exact ⟨rfl, List.cons_ne_nil s left⟩

theorem iterate_idle (hs : Serves act handler n [] l h) (timed : Bool) :
    iterate act timed l h = ⟨if timed then .returned 0 else .asleep, l, h⟩ := by
  obtain ⟨id, hl⟩ := hs.listens
  exact hl.iterate_quiet rfl rfl timed

theorem iterate_oldest {left : List Signal} (hs : Serves act handler n (s :: left) l h)
    (timed : Bool) :
    iterate act timed l h =
      ⟨.returned 1, { l with quit := l.quit || (handler s h.data).value.1 },
        handOver handler n s left h⟩ := by
  obtain ⟨id, hl⟩ := hs.listens
  rw [hl.iterate_message (wire_cons s left), if_pos rfl, takeOff_numberOf, heed_numberOf]
  rfl

theorem Serves.handOver {left : List Signal} (hs : Serves act handler n (s :: left) l h)
    (quit : Bool) :
    Serves act handler n left { l with quit } (handOver handler n s left h) where
  watch := hs.watch
  pipe := Pipes.pipe?_set_self hs.pipe _
  fileLimit := hs.fileLimit

/-! ## A run -/

/-- Hands signals over, no more than a number of them, until the handler asks to quit. -/
def workOff (handler : Handler α) (n : Nat) :
    Nat → List Signal → Host α → Outcome Unit × Host α
  | 0, _, h => (.unfinished, h)
  | _ + 1, [], h => (.asleep, h)
  | limit + 1, s :: left, h =>
    if (handler s h.data).value.1 then (.returned (), handOver handler n s left h)
    else workOff handler n limit left (handOver handler n s left h)

/-- A run works off what is in the pipe. -/
theorem rounds_eq_workOff (hs : Serves act handler n pending l h) (hquit : l.quit = false)
    (limit : Nat) :
    rounds act limit l h =
      ⟨(workOff handler n limit pending h).1,
        { l with quit := (workOff handler n limit pending h).1 = .returned () },
        (workOff handler n limit pending h).2⟩ := by
  have hnot : ¬l.quit = true := by simp [hquit]
  induction limit generalizing pending l h with
  | zero =>
      obtain ⟨id, k, hw, -⟩ := hs.watch
      rw [rounds, if_neg hnot, if_neg (by simp [hw])]
      cases l
      simp_all [workOff]
  | succ limit ih =>
      obtain ⟨id, k, hw, -⟩ := hs.watch
      rw [rounds, if_neg hnot, if_neg (by simp [hw])]
      cases pending with
      | nil =>
          simp only [iterate_idle hs]
          cases l
          simp_all [workOff]
      | cons s left =>
          simp only [iterate_oldest hs, hquit, Bool.false_or]
          cases hq : (handler s h.data).value.1 with
          | true =>
              rw [rounds_quit rfl]
              simp [workOff, hq]
          | false =>
              rw [ih (hs.handOver false) rfl (by simp)]
              simp [workOff, hq]

end Relay

end GadgetModes
