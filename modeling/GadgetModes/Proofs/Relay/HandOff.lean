import GadgetModes.Proofs.Relay.Invariant

/-!
# Signals are handed over in order

While the watch of the relay is there no signal is lost, doubled or overtaken. The loop of
the relay takes signals from the front of the pipe: one in each round, and in a run those up
to the first at which the handler asks to quit. The other loop takes none. As this holds of
whatever a history leaves, the next round or run goes on with the signals that a run left
behind.
-/

namespace GadgetModes.Relay

open GadgetModes.Log GadgetModes.MainLoop

/-! ## What is taken from the pipe -/

/-- From one session to the next signals left the pipe and were handed to the handler. -/
def Session.HandsOver (s s' : Session) (signals : List Signal) : Prop :=
  s'.handled = s.handled ++ signals ∧ s.pending = signals ++ s'.pending

theorem batch_isPrefix (r : Recorder) (signals : List Signal) : r.batch signals <+: signals := by
  induction signals with
  | nil => exact List.nil_prefix
  | cons t left ih =>
      rw [Recorder.batch]
      split
      · exact (List.cons_prefix_cons.mpr ⟨rfl, List.nil_prefix⟩)
      · exact List.cons_prefix_cons.mpr ⟨rfl, ih⟩

theorem workOff_outcome {r : Recorder} {n limit : Nat} {pending : List Signal}
    {h : Host (List Signal)} (hlimit : pending.length < limit) :
    (workOff r.handle n limit pending h).1 =
      if pending.any r.quitsOn.contains then .returned () else .asleep := by
  induction limit generalizing pending h with
  | zero => omega
  | succ limit ih =>
      cases pending with
      | nil => rfl
      | cons t left =>
          have hleft : left.length < limit := by simpa using hlimit
          have hquits : (r.handle t h.data).value.1 = r.quitsOn.contains t := rfl
          rw [workOff, hquits, List.any_cons]
          cases hq : r.quitsOn.contains t with
          | true => simp
          | false => simpa using ih hleft

theorem Tied.workOff {w : Wiring} {raised pending : List Signal} {l : MainLoop Recorder}
    {h : Host (List Signal)} (ht : Tied w true raised pending l h) (limit : Nat) :
    Tied w true raised (pending.drop ((w.recorder.batch pending).take limit).length) l
      (workOff w.recorder.handle w.pipe limit pending h).2 := by
  induction limit generalizing pending h with
  | zero => exact ht
  | succ limit ih =>
      cases pending with
      | nil => exact ht
      | cons t left =>
          have hquits : (w.recorder.handle t h.data).value.1 = w.recorder.quitsOn.contains t :=
            rfl
          rw [Relay.workOff, hquits, Recorder.batch]
          cases hq : w.recorder.quitsOn.contains t with
          | true => simpa using ht.handOver
          | false => simpa using ih ht.handOver

namespace Wired

variable {w : Wiring} {raised pending : List Signal} {s : Session}

/-- When fewer signals are pending, the others were handed over. -/
theorem handsOver {s' : Session} {k : Nat} (hw : Wired w true raised pending s)
    (hw' : Wired w true raised (pending.drop k) s') : s.HandsOver s' (pending.take k) := by
  constructor
  · have h := hw'.handled_append
    rw [← hw.handled_append] at h
    nth_rewrite 2 [← List.take_append_drop k pending] at h
    rw [← List.append_assoc] at h
    exact List.append_cancel_right h
  · rw [hw.pending_eq, hw'.pending_eq, List.take_append_drop]

theorem iterate_handsOver (hw : Wired w true raised pending s) :
    ∃ s', s.step (.iterate w.loop) =
          .alive (.iterated (.returned (pending.take 1).length)) s'
      ∧ s.HandsOver s' (pending.take 1) := by
  obtain ⟨hsound, ht⟩ := hw.tied.iterate true
  have houtcome : ((s.loop w.loop).iterate Recorder.act true s.host).outcome =
      .returned (pending.take 1).length := by
    cases pending with
    | nil => rw [iterate_idle hw.tied.serves]; rfl
    | cons t left => rw [iterate_oldest hw.tied.serves]; rfl
  refine ⟨_, ?_, hw.handsOver (hw.withLoop_self ht)⟩
  rw [Session.step_iterate_of_sound hsound, houtcome]
  rfl

/-- A part of a run of a loop that was not asked to quit. -/
theorem part_handsOver (hw : Wired w true raised pending s) (limit : Nat)
    {l : MainLoop Recorder} (hl : l.watches = (s.loop w.loop).watches)
    (hquit : l.quit = false) :
    ∃ s', s.ranTo w.loop (l.rounds Recorder.act limit s.host) =
          .alive (.ran (workOff w.recorder.handle w.pipe limit pending s.host).1) s'
      ∧ s.HandsOver s' ((w.recorder.batch pending).take limit) := by
  have htied := hw.tied.of_watches l hl
  have hrounds := rounds_eq_workOff htied.serves hquit limit
  have hsound := (htied.rounds limit).1
  have hafter := hw.withLoop_self ((htied.workOff limit).of_watches
    { l with quit := (workOff w.recorder.handle w.pipe limit pending s.host).1 = .returned () }
    rfl)
  rw [hrounds] at hsound
  rw [hrounds, Session.ranTo_of_sound hsound]
  refine ⟨_, rfl, ?_⟩
  have hprefix : (w.recorder.batch pending).take limit <+: pending :=
    (List.take_prefix _ _).trans (batch_isPrefix _ _)
  rw [List.prefix_iff_eq_take.mp hprefix]
  exact hw.handsOver hafter

theorem begin_handsOver (hw : Wired w true raised pending s) (limit : Nat) :
    ∃ s', s.move (.begin w.loop limit) =
          .alive (.ran (workOff w.recorder.handle w.pipe limit pending s.host).1) s'
      ∧ s.HandsOver s' ((w.recorder.batch pending).take limit) :=
  hw.part_handsOver limit (l := { s.loop w.loop with quit := false }) rfl rfl

theorem goOn_handsOver (hw : Wired w true raised pending s) (limit : Nat) :
    ∃ answer s', s.move (.goOn w.loop limit) = .alive answer s'
      ∧ s.HandsOver s'
          (if (s.loop w.loop).quit then [] else (w.recorder.batch pending).take limit) := by
  cases hquit : (s.loop w.loop).quit with
  | true =>
      rw [Session.move, rounds_quit hquit]
      exact ⟨_, _, rfl, hw.handsOver (k := 0) (hw.withLoop_self hw.tied)⟩
  | false =>
      obtain ⟨s', hmove, hs'⟩ := hw.part_handsOver limit rfl hquit
      exact ⟨_, s', hmove, hs'⟩

/-- A run that is given enough rounds for what is in the pipe. -/
theorem run_handsOver (hw : Wired w true raised pending s) :
    ∃ s', s.step (.run w.loop) =
          .alive (.ran (if pending.any w.recorder.quitsOn.contains then .returned ()
            else .asleep)) s'
      ∧ s.HandsOver s' (w.recorder.batch pending) := by
  have hbytes := Pipes.buffered_length_le hw.tied.pipe
  have hlimit : pending.length < s.roundLimit w.loop := by
    rw [wire_length] at hbytes
    rw [Session.roundLimit]
    simp only [messageSize] at hbytes
    omega
  obtain ⟨s', hmove, hs'⟩ := hw.begin_handsOver (s.roundLimit w.loop)
  rw [workOff_outcome hlimit] at hmove
  refine ⟨s', (s.move_run w.loop).trans hmove, ?_⟩
  rwa [List.take_of_length_le] at hs'
  exact Nat.le_trans (batch_isPrefix _ _).length_le (Nat.le_of_lt hlimit)

/-- Another loop hands nothing over. -/
theorem other_handsOver (hw : Wired w true raised pending s) {j : Fin 2} (hj : j ≠ w.loop) :
    (∃ s', s.step (.iterate j) = .alive (.iterated (.returned 0)) s' ∧ s.HandsOver s' [])
      ∧ ∃ s', s.step (.run j) = .alive (.ran (.returned ())) s' ∧ s.HandsOver s' [] := by
  have hnone := hw.other j hj
  constructor
  · rw [Session.step, iterate_unwatched hnone]
    exact ⟨_, rfl, hw.handsOver (k := 0) (hw.withLoop_watches rfl hw.tied)⟩
  · have hforgets : ({ s.loop j with quit := false } : MainLoop Recorder).watches = [] := hnone
    rw [← Session.move, Session.move_run, Session.move, run, rounds_unwatched hforgets]
    exact ⟨_, rfl, hw.handsOver (k := 0) (hw.withLoop_watches rfl (hw.tied.report rfl))⟩

end Wired

/-! ## Histories -/

/-- After any history that leaves the watch of the relay alone, the signals that were
handed over and those that the bytes in the pipe stand for are the signals that were
raised, in order. From there on a round of the relay's loop hands over the oldest pending
signal, and a part of a run those up to the first that makes it quit. The other loop hands
over none. -/
theorem handled_append_pending {s₀ s₁ s : Session} {i : Fin 2} {r : Recorder} {id : Nat}
    {moves : List Move} (hfresh : s₀.Fresh)
    (hsetUp : s₀.step (.setUp i r) = .alive (.watch id) s₁) (husual : ∀ m ∈ moves, m.Usual)
    (hkept : ∀ m ∈ moves, m.removes i = false) (hplay : s₁.play moves = some s) :
    s.handled ++ s.pending = raisedBy moves
      ∧ s.unread = wire s.pending
      ∧ (∃ s', s.step (.iterate i) =
            .alive (.iterated (.returned (s.pending.take 1).length)) s'
          ∧ s.HandsOver s' (s.pending.take 1))
      ∧ (∃ s', s.step (.run i) =
            .alive (.ran (if s.pending.any r.quitsOn.contains then .returned ()
              else .asleep)) s'
          ∧ s.HandsOver s' (r.batch s.pending))
      ∧ (∀ limit, ∃ answer s', s.move (.begin i limit) = .alive answer s'
          ∧ s.HandsOver s' ((r.batch s.pending).take limit))
      ∧ (∀ limit, ∃ answer s', s.move (.goOn i limit) = .alive answer s'
          ∧ s.HandsOver s'
              (if (s.loop i).quit then [] else (r.batch s.pending).take limit))
      ∧ ∀ j, j ≠ i →
          (∃ s', s.step (.iterate j) = .alive (.iterated (.returned 0)) s'
            ∧ s.HandsOver s' [])
          ∧ ∃ s', s.step (.run j) = .alive (.ran (.returned ())) s' ∧ s.HandsOver s' [] := by
  obtain ⟨w, rfl, rfl, -, hwired⟩ := wired_of_setUp hfresh hsetUp
  obtain ⟨pending, hw⟩ := hwired.play husual hplay
  have hattached : (true && !moves.any (·.removes w.loop)) = true := by simpa using hkept
  rw [hattached, List.nil_append] at hw
  rw [hw.unread, hw.pending_eq]
  refine ⟨hw.handled_append, rfl, hw.iterate_handsOver, hw.run_handsOver, ?_,
    hw.goOn_handsOver, ?_⟩
  · intro limit
    obtain ⟨s', hmove, hs'⟩ := hw.begin_handsOver limit
    exact ⟨_, s', hmove, hs'⟩
  · exact fun j hj => hw.other_handsOver hj

/-- A run that returns at the second of three signals. -/
def quitAtSecond (i j : Fin 2) : List Move :=
  [.ask (.raise .hangup), .ask (.iterate j), .ask (.raise .interrupt), .ask (.raise .hangup),
    .ask (.run i)]

/-- The third signal is left in the pipe, and the next round hands it over. -/
theorem handled_append_pending_quitAtSecond :
    ∃ id s₁ s, ({} : Session).step (.setUp 0 ⟨[.interrupt]⟩) = .alive (.watch id) s₁
      ∧ s₁.play (quitAtSecond 0 1) = some s
      ∧ s.handled ++ s.pending = [.hangup, .interrupt, .hangup]
      ∧ s.pending = [.hangup]
      ∧ ∃ s', s.step (.iterate 0) = .alive (.iterated (.returned 1)) s'
          ∧ s.HandsOver s' [.hangup] := by
  have hpending : (({} : Session).history 0 ⟨[.interrupt]⟩ (quitAtSecond 0 1)).map
      Session.pending = some [.hangup] := by
    decide +kernel
  obtain ⟨s, hs, hpending⟩ := Option.map_eq_some_iff.mp hpending
  obtain ⟨id, s₁, hsetUp, hplay⟩ := Session.of_history hs
  have husual : ∀ m ∈ quitAtSecond 0 1, m.Usual := by
    simp only [quitAtSecond, List.forall_mem_cons]
    exact ⟨.raise (by decide), .iterate 1, .raise (by decide), .raise (by decide), .run 0,
      by simp⟩
  obtain ⟨hconserved, -, hround, -⟩ :=
    handled_append_pending Session.fresh_start hsetUp husual (by decide) hplay
  rw [hpending] at hround
  exact ⟨id, s₁, s, hsetUp, hplay, hconserved, hpending, hround⟩

end GadgetModes.Relay
