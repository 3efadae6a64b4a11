import GadgetModes.Proofs.Relay.Wiring

/-!
# What a history keeps

A session is wired when its relay is tied to one of its loops, the other loop watches
nothing, and the watch of the relay is the only one that was ever numbered. Setting up
makes a session wired (`Wired.of_setUp`). Each usual move keeps it wired, or it is one of
those that kill the process (`Wired.move`); so what a history leaves is wired
(`Wired.play`).
-/

namespace GadgetModes.Relay

open GadgetModes.Log GadgetModes.MainLoop

/-! ## Turns of a loop -/

namespace Session

variable {s : Session} {i j : Fin 2} {l : MainLoop Recorder} {h : Host (List Signal)}

theorem loop_withLoop_self : (s.withLoop i l h).loop i = l := by
  simp [withLoop, loop]

theorem loop_withLoop_ne (hj : j ≠ i) : (s.withLoop i l h).loop j = s.loop j := by
  simp only [withLoop, loop, Fin.getElem_fin]
  exact Vector.getElem_set_ne i.isLt j.isLt fun hv => hj (Fin.ext hv.symm)

theorem ranTo_of_sound {turn : Turn Recorder (List Signal) Unit}
    (h : Outcome.Sound turn.outcome) :
    s.ranTo i turn = .alive (.ran turn.outcome) (s.after i turn) := by
  rw [ranTo]
  split
  · next ho => rw [ho] at h; exact h.elim
  · rfl

theorem step_iterate_of_sound
    (h : Outcome.Sound ((s.loop i).iterate Recorder.act true s.host).outcome) :
    s.step (.iterate i) =
      .alive (.iterated ((s.loop i).iterate Recorder.act true s.host).outcome)
        (s.after i ((s.loop i).iterate Recorder.act true s.host)) := by
  rw [step]
  split
  · next ho => rw [ho] at h; exact h.elim
  · rfl

theorem of_step_setUp {s' : Session} {r : Recorder} {id : Nat}
    (h : s.step (.setUp i r) = .alive (.watch id) s') :
    (Relay.setUp r (s.loop i) s.host).outcome = .returned id
      ∧ s'.host = (Relay.setUp r (s.loop i) s.host).host
      ∧ s'.loop i = (Relay.setUp r (s.loop i) s.host).loop
      ∧ (∀ j, j ≠ i → s'.loop j = s.loop j)
      ∧ s'.issued = s.issued ++ [id] := by
  rw [step] at h
  split at h
  · next id' ho =>
    obtain ⟨hid, hs⟩ := Stepped.alive.inj h
    obtain rfl := Answer.watch.inj hid
    rw [← hs]
    exact ⟨ho, rfl, loop_withLoop_self (h := s.host),
      fun j hj => loop_withLoop_ne (h := s.host) hj, rfl⟩
  · simp at h
  · simp at h

theorem step_removeWatch {number id : Nat} (hid : s.issued[number]? = some id) :
    s.step (.removeWatch i number) =
      .alive (.truth ((s.loop i).removeWatch s.host id).1)
        (s.withLoop i ((s.loop i).removeWatch s.host id).2.1
          ((s.loop i).removeWatch s.host id).2.2) := by
  rw [step, hid]

end Session

/-! ## Wired sessions -/

/-- A session whose relay is tied to one of its loops, with the signals that were raised
and those that are pending. -/
structure Wired (w : Wiring) (attached : Bool) (raised pending : List Signal)
    (s : Session) : Prop where
  tied : Tied w attached raised pending (s.loop w.loop) s.host
  other : ∀ j, j ≠ w.loop → (s.loop j).watches = []
  issued : s.issued = [w.watch]

/-- The moves that kill a process: a signal that asks it to end after an earlier one did,
and any trapped signal when nobody reads the pipe. -/
def Move.Fatal (attached : Bool) (raised : List Signal) (m : Move) : Prop :=
  ∃ t, m = .ask (.raise t)
    ∧ ((t ∈ terminating ∧ ∃ u ∈ raised, u ∈ terminating) ∨ attached = false)

namespace Wired

variable {w : Wiring} {attached : Bool} {raised pending left : List Signal} {s : Session}
  {j : Fin 2}

theorem unread (hw : Wired w attached raised pending s) : s.unread = wire pending := by
  rw [Session.unread, hw.tied.writeEnd, Option.bind_some, hw.tied.pipe]
  rfl

theorem pending_eq (hw : Wired w attached raised pending s) : s.pending = pending := by
  rw [Session.pending, hw.unread, signalsOf_wire]

theorem handled_append (hw : Wired w attached raised pending s) :
    s.handled ++ pending = raised :=
  hw.tied.conserved

/-- Of the loop of the relay and of the host only what is tied has to be known. -/
theorem withLoop_self {l : MainLoop Recorder} {h : Host (List Signal)} {still : Bool}
    (hw : Wired w attached raised pending s) (ht : Tied w still raised left l h) :
    Wired w still raised left (s.withLoop w.loop l h) where
  tied := by rw [Session.loop_withLoop_self]; exact ht
  other := by
    intro j hj
    rw [Session.loop_withLoop_ne hj]
    exact hw.other j hj
  issued := hw.issued

/-- Of any loop only the watches count. -/
theorem withLoop_watches {l : MainLoop Recorder} {h : Host (List Signal)}
    (hw : Wired w attached raised pending s) (hl : l.watches = (s.loop j).watches)
    (ht : Tied w attached raised pending (s.loop w.loop) h) :
    Wired w attached raised pending (s.withLoop j l h) := by
  have hloops : ∀ k : Fin 2, ((s.withLoop j l h).loop k).watches = (s.loop k).watches := by
    intro k
    by_cases hk : k = j
    · rw [hk, Session.loop_withLoop_self, hl]
    · rw [Session.loop_withLoop_ne hk]
  exact
    { tied := ht.of_watches _ (hloops w.loop)
      other := by
        intro k hk
        rw [hloops]
        exact hw.other k hk
      issued := hw.issued }

/-- A loop either watches the pipe of the relay or nothing. -/
theorem serving_or_unwatched (hw : Wired w attached raised pending s) (j : Fin 2) :
    (j = w.loop ∧ attached = true) ∨ (s.loop j).watches = [] := by
  by_cases hj : j = w.loop
  · cases attached with
    | true => exact .inl ⟨hj, rfl⟩
    | false => exact .inr (by rw [hj]; exact hw.tied.watches)
  · exact .inr (hw.other j hj)

/-! ## Moves -/

theorem iterate (hw : Wired w attached raised pending s) (j : Fin 2) :
    ∃ answer s' left, s.step (.iterate j) = .alive answer s'
      ∧ Wired w attached raised left s' := by
  rcases hw.serving_or_unwatched j with ⟨rfl, rfl⟩ | hnone
  · obtain ⟨hsound, ht⟩ := hw.tied.iterate true
    exact ⟨_, _, _, Session.step_iterate_of_sound hsound, hw.withLoop_self ht⟩
  · have hsound : Outcome.Sound ((s.loop j).iterate Recorder.act true s.host).outcome := by
      rw [iterate_unwatched hnone]
      trivial
    refine ⟨_, _, pending, Session.step_iterate_of_sound hsound, ?_⟩
    rw [iterate_unwatched hnone]
    exact hw.withLoop_watches rfl hw.tied

/-- A part of a run, after the loop forgot or kept a request to quit. -/
theorem part (hw : Wired w attached raised pending s) (j : Fin 2) (limit : Nat)
    {l : MainLoop Recorder} (hl : l.watches = (s.loop j).watches) :
    ∃ answer s' left, s.ranTo j (l.rounds Recorder.act limit s.host) = .alive answer s'
      ∧ Wired w attached raised left s' := by
  rcases hw.serving_or_unwatched j with ⟨rfl, rfl⟩ | hnone
  · obtain ⟨hsound, left, ht⟩ := (hw.tied.of_watches l hl).rounds limit
    exact ⟨_, _, left, Session.ranTo_of_sound hsound, hw.withLoop_self ht⟩
  · rw [rounds_unwatched (hl.trans hnone)]
    refine ⟨_, _, pending, rfl, hw.withLoop_watches hl ?_⟩
    cases l.quit with
    | true => exact hw.tied
    | false => exact hw.tied.report rfl

theorem setUp (hw : Wired w attached raised pending s) (j : Fin 2) (r : Recorder) :
    ∃ answer s', s.step (.setUp j r) = .alive answer s'
      ∧ Wired w attached raised pending s' := by
  rw [Session.step, hw.tied.setUp]
  exact ⟨_, _, rfl, hw.withLoop_watches rfl hw.tied⟩

theorem removeWatch (hw : Wired w attached raised pending s) (j : Fin 2) (number : Nat) :
    ∃ answer s', s.step (.removeWatch j number) = .alive answer s'
      ∧ Wired w (attached && !(Move.ask (.removeWatch j number)).removes w.loop) raised
        pending s' := by
  cases number with
  | succ number =>
      rw [Session.step, hw.issued]
      exact ⟨_, _, rfl, by simpa [Move.removes] using hw⟩
  | zero =>
      refine ⟨_, _, Session.step_removeWatch (by rw [hw.issued]; rfl), ?_⟩
      by_cases hj : j = w.loop
      · subst hj
        simpa only [Move.removes, decide_true, Bool.not_true, Bool.and_false] using
          hw.withLoop_self hw.tied.removeWatch.2
      · have hremove : (s.loop j).removeWatch s.host w.watch = (false, s.loop j, s.host) := by
          rw [MainLoop.removeWatch, hw.other j hj]
          rfl
        simpa only [hremove, Move.removes, hj, decide_false, Bool.not_false, Bool.and_true]
          using hw.withLoop_watches rfl hw.tied

/-- What becomes of a trapped signal that is raised. -/
theorem raise (hw : Wired w attached raised pending s) {t : Signal} (ht : t ∈ trapped) :
    (Move.Fatal attached raised (.ask (.raise t)) ∧ s.step (.raise t) = .dead .abort)
      ∨ (¬Move.Fatal attached raised (.ask (.raise t))
        ∧ ∃ answer s', s.step (.raise t) = .alive answer s'
          ∧ Wired w attached (raised ++ [t]) (pending ++ [t]) s') := by
  have hfatal : Move.Fatal attached raised (.ask (.raise t)) ↔
      (t ∈ terminating ∧ endings raised = 1 ∨ attached = false) := by
    rw [endings_eq_one_iff hw.tied.bounded]
    constructor
    · rintro ⟨_, ⟨⟩, h⟩
      exact h
    · exact fun h => ⟨t, rfl, h⟩
  rw [Session.step, hfatal]
  rcases hw.tied.deliver ht with ⟨hdies, h', hdeliver⟩ | ⟨hlives, h', hdeliver, htied⟩
  · rw [hdeliver]
    exact .inl ⟨hdies, rfl⟩
  · rw [hdeliver]
    exact .inr ⟨hlives, _, _, rfl,
      { tied := htied
        other := hw.other
        issued := hw.issued }⟩

/-- A usual move is fatal and kills the process by an abort, or it is not and keeps the
session wired. -/
theorem move (hw : Wired w attached raised pending s) {m : Move} (hm : m.Usual) :
    (Move.Fatal attached raised m ∧ s.move m = .dead .abort)
      ∨ (¬Move.Fatal attached raised m
        ∧ ∃ answer s' left, s.move m = .alive answer s'
          ∧ Wired w (attached && !m.removes w.loop) (raised ++ m.raises) left s') := by
  have hkept : ∀ {answer : Answer} {s' : Session} {left : List Signal},
      s.move m = .alive answer s' → Wired w attached raised left s' →
      (∀ t, m ≠ .ask (.raise t)) → m.raises = [] → m.removes w.loop = false →
      ¬Move.Fatal attached raised m ∧ ∃ answer s' left, s.move m = .alive answer s'
          ∧ Wired w (attached && !m.removes w.loop) (raised ++ m.raises) left s' := by
    intro answer s' left hmove hs' hne hraises hremoves
    refine ⟨fun ⟨t, ht, _⟩ => hne t ht, answer, s', left, hmove, ?_⟩
    simpa [hraises, hremoves] using hs'
  cases hm with
  | raise ht =>
      rcases hw.raise ht with hdies | ⟨hlives, answer, s', hstep, hs'⟩
      · exact .inl hdies
      · exact .inr ⟨hlives, answer, s', _, hstep, by simpa [Move.removes, Move.raises] using hs'⟩
  | iterate j =>
      obtain ⟨answer, s', left, hstep, hs'⟩ := hw.iterate j
      exact .inr (hkept hstep hs' (by simp) rfl rfl)
  | run j =>
      obtain ⟨answer, s', left, hstep, hs'⟩ := hw.part j (s.roundLimit j)
        (show ({ s.loop j with quit := false } : MainLoop Recorder).watches = _ from rfl)
      exact .inr (hkept ((s.move_run j).trans hstep) hs' (by simp) rfl rfl)
  | setUp j r =>
      obtain ⟨answer, s', hstep, hs'⟩ := hw.setUp j r
      exact .inr (hkept hstep hs' (by simp) rfl rfl)
  | removeWatch j number =>
      obtain ⟨answer, s', hstep, hs'⟩ := hw.removeWatch j number
      refine .inr ⟨by simp [Move.Fatal], answer, s', pending, hstep, ?_⟩
      simpa only [Move.raises, List.append_nil] using hs'
  | hasWatch j number =>
      have hstep : ∃ answer, s.step (.hasWatch j number) = .alive answer s := by
        rw [Session.step]
        cases s.issued[number]? with
        | none => exact ⟨_, rfl⟩
        | some id => exact ⟨_, rfl⟩
      obtain ⟨answer, hstep⟩ := hstep
      exact .inr (hkept hstep hw (by simp) rfl rfl)
  | begin j limit =>
      obtain ⟨answer, s', left, hstep, hs'⟩ := hw.part j limit
        (show ({ s.loop j with quit := false } : MainLoop Recorder).watches = _ from rfl)
      exact .inr (hkept hstep hs' (by simp) rfl rfl)
  | goOn j limit =>
      obtain ⟨answer, s', left, hstep, hs'⟩ := hw.part j limit rfl
      exact .inr (hkept hstep hs' (by simp) rfl rfl)
  | wake =>
      have hs' : Wired w attached raised pending
          { s with host := MainLoop.interrupted s.host } :=
        { hw with tied := hw.tied.report rfl }
      exact .inr (hkept rfl hs' (by simp) rfl rfl)

/-- What a history of usual moves leaves is wired, unless it killed the process. -/
theorem play (hw : Wired w attached raised pending s) {moves : List Move} {s' : Session}
    (hmoves : ∀ m ∈ moves, m.Usual) (hplay : s.play moves = some s') :
    ∃ left, Wired w (attached && !moves.any (·.removes w.loop)) (raised ++ raisedBy moves)
      left s' := by
  induction moves generalizing s attached raised pending with
  | nil =>
      obtain rfl : s = s' := Option.some.inj hplay
      exact ⟨pending, by simpa [raisedBy] using hw⟩
  | cons m moves ih =>
      have hm : m.Usual := hmoves m (List.mem_cons_self ..)
      rw [Session.play] at hplay
      rcases hw.move hm with ⟨-, hdead⟩ | ⟨-, answer, next, left, halive, hnext⟩
      · rw [hdead] at hplay
        cases hplay
      · rw [halive] at hplay
        obtain ⟨left', hs'⟩ := ih hnext (fun m hm => hmoves m (List.mem_cons_of_mem _ hm)) hplay
        refine ⟨left', ?_⟩
        simpa [raisedBy, Bool.and_assoc] using hs'

end Wired

/-- Where the relay is set up on a loop of a fresh session, the session is wired. -/
theorem wired_of_setUp {s₀ s : Session} {i : Fin 2} {r : Recorder} {id : Nat}
    (hfresh : s₀.Fresh) (hsetUp : s₀.step (.setUp i r) = .alive (.watch id) s) :
    ∃ w : Wiring, w.loop = i ∧ w.recorder = r
      ∧ w.faults = s.host.log.filter Event.isRelayFault ∧ Wired w true [] [] s := by
  obtain ⟨houtcome, hhost, hloop, hother, hissued⟩ := Session.of_step_setUp hsetUp
  have htied := (established_of_returned houtcome).tied (i := i) (hfresh.watches i)
    hfresh.handled hfresh.count
  rw [← setUp, ← hloop, ← hhost] at htied
  exact ⟨_, rfl, rfl, rfl,
    { tied := htied
      other := by
        intro j hj
        rw [hother j hj]
        exact hfresh.watches j
      issued := by rw [hissued, hfresh.issued]; rfl }⟩

end GadgetModes.Relay
