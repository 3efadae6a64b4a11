import GadgetModes.MainLoop.Run

/-!
# Rounds of a main loop

What one round can do (`iterate_cases`), and what a run keeps when all of its rounds keep it
(`rounds_keep`).
-/

namespace GadgetModes

open GadgetModes.Log

namespace MainLoop

variable {κ α : Type} {act : Callbacks κ α}

/-- Something goes on and is neither failed nor aborted. -/
def Outcome.Sound {β : Type} : Outcome β → Prop
  | .returned _ => True
  | .asleep => True
  | .unfinished => True
  | .failed _ => False
  | .aborted => False

/-! ## One round -/

theorem ready_sublist (l : MainLoop κ) (pipes : Pipes) :
    ((l.ready pipes).map (·.1.id)).Sublist (l.watches.map (·.id)) := by
  have hpolled : (l.polled pipes).map (·.1.id) = l.watches.map (·.id) := by
    simp [polled, Function.comp_def]
  rw [← hpolled]
  exact List.filter_sublist.map _

theorem mem_ready_iff {l : MainLoop κ} {pipes : Pipes} {w : Watch κ} {revents : PollFlags} :
    (w, revents) ∈ l.ready pipes ↔
      w ∈ l.watches ∧ revents = pipes.poll w.descriptor w.conditions ∧ revents ≠ .none := by
  rw [ready, polled, List.mem_filter, List.mem_map]
  constructor
  · rintro ⟨⟨v, hv, heq⟩, hsome⟩
    obtain ⟨rfl, rfl⟩ := Prod.mk.inj heq
    exact ⟨hv, rfl, by simpa [PollFlags.isEmpty, PollFlags.none] using hsome⟩
  · rintro ⟨hw, rfl, hsome⟩
    exact ⟨⟨w, hw, rfl⟩, by simpa [PollFlags.isEmpty, PollFlags.none] using hsome⟩

/-- Callbacks that all return have been called one after the other. -/
theorem of_serve_cons {x : Watch κ × PollFlags} {rest : List (Watch κ × PollFlags)} {h : Host α}
    {s : Served α} (hs : serve act (x :: rest) h = .ok s) :
    ∃ action quits h' t, act x.1.callback x.1.descriptor x.2 h = .done action quits h'
      ∧ serve act rest h' = .ok t
      ∧ s.finished = (if action = .remove then [x.1.id] else []) ++ t.finished
      ∧ s.quits = (quits || t.quits) ∧ s.host = t.host := by
  rw [serve] at hs
  cases hreply : act x.1.callback x.1.descriptor x.2 h with
  | aborted h' =>
      simp only [hreply] at hs
      cases hs
  | done action quits h' =>
      simp only [hreply] at hs
      cases hrest : serve act rest h' with
      | error h'' => rw [hrest] at hs; cases hs
      | ok t =>
          rw [hrest] at hs
          obtain rfl := Except.ok.inj hs
          exact ⟨action, quits, h', t, rfl, hrest, rfl, rfl, rfl⟩

theorem ready_unwatched {l : MainLoop κ} (hl : l.watches = []) (pipes : Pipes) :
    l.ready pipes = [] := by
  rw [ready, polled, hl]
  rfl

/-- A poll that asks for too much fails. -/
theorem iterate_of_limit {timed : Bool} {l : MainLoop κ} {h : Host α}
    (hlimit : h.fileLimit < l.watches.length) :
    iterate act timed l h = ⟨.failed pollFailure, l, h⟩ := by
  have hwatches : ¬l.watches.isEmpty = true := by
    rw [List.isEmpty_iff_length_eq_zero]
    omega
  rw [iterate, if_neg hwatches, if_pos hlimit]

/-- When nothing is ready a round calls no callback, and leaves all as it is. -/
theorem iterate_of_ready_nil {timed : Bool} {l : MainLoop κ} {h : Host α}
    (hlimit : l.watches.length ≤ h.fileLimit) (hready : l.ready h.pipes = []) :
    iterate act timed l h =
      ⟨if l.watches.isEmpty || timed then .returned 0 else .asleep, l, h⟩ := by
  rw [iterate]
  by_cases hwatches : l.watches.isEmpty = true
  · simp [hwatches]
  · simp [hwatches, Nat.not_lt.mpr hlimit, hready]

/-- When the callbacks of all that is ready return, the watches go that are to go. -/
theorem iterate_of_serve_ok {timed : Bool} {l : MainLoop κ} {h : Host α} {s : Served α}
    (hlimit : l.watches.length ≤ h.fileLimit) (hs : serve act (l.ready h.pipes) h = .ok s) :
    iterate act timed l h =
      ⟨if (l.ready h.pipes).isEmpty && !(l.watches.isEmpty || timed) then .asleep
          else .returned (l.ready h.pipes).length,
        ({ l with quit := l.quit || s.quits }.removeWatches s.host s.finished).1,
        ({ l with quit := l.quit || s.quits }.removeWatches s.host s.finished).2⟩ := by
  by_cases hready : l.ready h.pipes = []
  · rw [hready] at hs
    obtain rfl := Except.ok.inj hs
    rw [iterate_of_ready_nil hlimit hready, hready]
    cases l.watches.isEmpty || timed <;> simp [removeWatches]
  · have hwatches : l.watches ≠ [] := fun hnone => hready (ready_unwatched hnone _)
    rw [iterate, if_neg (by simpa using hwatches), if_neg (Nat.not_lt.mpr hlimit)]
    simp [hs, hready]

theorem iterate_of_serve_error {timed : Bool} {l : MainLoop κ} {h h' : Host α}
    (hlimit : l.watches.length ≤ h.fileLimit) (hs : serve act (l.ready h.pipes) h = .error h') :
    iterate act timed l h = ⟨.aborted, l, h'⟩ := by
  have hready : l.ready h.pipes ≠ [] := by
    intro hready
    rw [hready] at hs
    cases hs
  have hwatches : l.watches ≠ [] := fun hnone => hready (ready_unwatched hnone _)
  rw [iterate, if_neg (by simpa using hwatches), if_neg (Nat.not_lt.mpr hlimit)]
  simp [hs, hready]

/-- A round leaves all as it is, when nothing is ready or too much is watched. Otherwise the
callbacks of what is ready are called: one of them brings the process down, or all return and
the finished watches are removed. -/
theorem iterate_cases (act : Callbacks κ α) (timed : Bool) (l : MainLoop κ) (h : Host α) :
    ((l.ready h.pipes = [] ∨ h.fileLimit < l.watches.length)
        ∧ ∃ outcome, iterate act timed l h = ⟨outcome, l, h⟩
          ∧ (outcome = .returned 0 ∨ outcome = .asleep ∨ outcome = .failed pollFailure))
      ∨ (l.watches.length ≤ h.fileLimit ∧ ∃ h', serve act (l.ready h.pipes) h = .error h'
          ∧ iterate act timed l h = ⟨.aborted, l, h'⟩)
      ∨ (l.watches.length ≤ h.fileLimit ∧ ∃ s, serve act (l.ready h.pipes) h = .ok s
          ∧ iterate act timed l h =
            ⟨.returned (l.ready h.pipes).length,
              ({ l with quit := l.quit || s.quits }.removeWatches s.host s.finished).1,
              ({ l with quit := l.quit || s.quits }.removeWatches s.host s.finished).2⟩) := by
  rcases Nat.lt_or_ge h.fileLimit l.watches.length with hlimit | hlimit
  · exact .inl ⟨.inr hlimit, .failed pollFailure, iterate_of_limit hlimit, .inr (.inr rfl)⟩
  by_cases hready : l.ready h.pipes = []
  · refine .inl ⟨.inl hready, _, iterate_of_ready_nil hlimit hready, ?_⟩
    cases l.watches.isEmpty || timed with
    | true => exact .inl rfl
    | false => exact .inr (.inl rfl)
  cases hserve : serve act (l.ready h.pipes) h with
  | error h' => exact .inr (.inl ⟨hlimit, h', rfl, iterate_of_serve_error hlimit hserve⟩)
  | ok s =>
      refine .inr (.inr ⟨hlimit, s, rfl, ?_⟩)
      rw [iterate_of_serve_ok hlimit hserve, if_neg (by simp [hready])]

theorem iterate_unwatched {timed : Bool} {l : MainLoop κ} {h : Host α}
    (hl : l.watches = []) : iterate act timed l h = ⟨.returned 0, l, h⟩ := by
  rw [iterate, hl]
  rfl

/-! ## Runs -/

theorem rounds_unwatched {limit : Nat} {l : MainLoop κ} {h : Host α} (hl : l.watches = []) :
    rounds act limit l h =
      ⟨.returned (), l, if l.quit then h else h.report .noWatchesLeft⟩ := by
  unfold rounds
  rw [hl]
  split <;> rfl

/-- A loop that is to quit makes no round. -/
theorem rounds_quit {limit : Nat} {l : MainLoop κ} {h : Host α} (hquit : l.quit = true) :
    rounds act limit l h = ⟨.returned (), l, h⟩ := by
  unfold rounds
  exact if_pos hquit

/-- A part of a run whose first round returns goes on after that round. Otherwise it is over
with the round, and ends as that does. -/
theorem rounds_succ (act : Callbacks κ α) {l : MainLoop κ} (h : Host α)
    (hquit : l.quit = false) (hwatches : l.watches ≠ []) :
    ((∃ n, (iterate act false l h).outcome = .returned n)
        ∧ ∀ limit, rounds act (limit + 1) l h =
          rounds act limit (iterate act false l h).loop (iterate act false l h).host)
      ∨ (∀ n, (iterate act false l h).outcome ≠ .returned n)
        ∧ ∀ limit, (rounds act (limit + 1) l h).loop = (iterate act false l h).loop
          ∧ (rounds act (limit + 1) l h).host = (iterate act false l h).host
          ∧ (rounds act (limit + 1) l h).outcome ≠ .returned ()
          ∧ ((rounds act (limit + 1) l h).outcome = .aborted ↔
            (iterate act false l h).outcome = .aborted) := by
  have hnot : ¬l.quit = true := by simp [hquit]
  have hsome : ¬l.watches.isEmpty = true := by simp [hwatches]
  cases hround : (iterate act false l h).outcome with
  | returned n =>
      refine .inl ⟨⟨n, rfl⟩, fun limit => ?_⟩
      rw [rounds, if_neg hnot, if_neg hsome]
      simp only [hround]
  | _ =>
      refine .inr ⟨by simp, fun limit => ?_⟩
      rw [rounds, if_neg hnot, if_neg hsome]
      simp [hround]

/-- What every round keeps, with a sound outcome, a run of any length keeps too. -/
theorem rounds_keep {P : MainLoop κ → Host α → Prop}
    (hround : ∀ {l h}, P l h → l.watches ≠ [] →
      Outcome.Sound (iterate act false l h).outcome
        ∧ P (iterate act false l h).loop (iterate act false l h).host)
    (hempty : ∀ {l h}, P l h → l.watches = [] → P l (h.report .noWatchesLeft)) :
    ∀ (limit : Nat) {l : MainLoop κ} {h : Host α}, P l h →
      Outcome.Sound (rounds act limit l h).outcome
        ∧ P (rounds act limit l h).loop (rounds act limit l h).host := by
  intro limit
  induction limit with
  | zero =>
      intro l h hp
      rw [rounds]
      split
      · exact ⟨trivial, hp⟩
      · split
        · next he => exact ⟨trivial, hempty hp (List.isEmpty_iff.mp he)⟩
        · exact ⟨trivial, hp⟩
  | succ limit ih =>
      intro l h hp
      rw [rounds]
      split
      · exact ⟨trivial, hp⟩
      · split
        · next he => exact ⟨trivial, hempty hp (List.isEmpty_iff.mp he)⟩
        · next hne =>
          obtain ⟨hsound, hp'⟩ := hround hp (fun h => hne (List.isEmpty_iff.mpr h))
          cases ho : (iterate act false l h).outcome with
          | returned n => simp only [ho]; exact ih hp'
          | failed failure => rw [ho] at hsound; exact hsound.elim
          | asleep => simp only [ho]; exact ⟨trivial, hp'⟩
          | unfinished => simp only [ho]; exact ⟨trivial, hp'⟩
          | aborted => rw [ho] at hsound; exact hsound.elim

/-- When every round keeps something or aborts for a reason, a run keeps it or aborts for that
reason. -/
theorem rounds_keep_or_abort {P : MainLoop κ → Host α → Prop} {reason : Prop}
    (hround : ∀ {l h}, P l h → ((iterate act false l h).outcome = .aborted ∧ reason)
      ∨ ((iterate act false l h).outcome ≠ .aborted
        ∧ P (iterate act false l h).loop (iterate act false l h).host))
    (hempty : ∀ {l h}, P l h → P l (h.report .noWatchesLeft)) :
    ∀ (limit : Nat) {l : MainLoop κ} {h : Host α}, P l h →
      ((rounds act limit l h).outcome = .aborted ∧ reason)
        ∨ ((rounds act limit l h).outcome ≠ .aborted
          ∧ P (rounds act limit l h).loop (rounds act limit l h).host) := by
  intro limit
  induction limit with
  | zero =>
      intro l h hp
      rw [rounds]
      split
      · exact .inr ⟨by simp, hp⟩
      · split
        · exact .inr ⟨by simp, hempty hp⟩
        · exact .inr ⟨by simp, hp⟩
  | succ limit ih =>
      intro l h hp
      cases hquit : l.quit with
      | true =>
          rw [rounds_quit hquit]
          exact .inr ⟨by simp, hp⟩
      | false =>
      by_cases hwatches : l.watches = []
      · rw [rounds_unwatched hwatches, hquit]
        exact .inr ⟨by simp, hempty hp⟩
      rcases rounds_succ act h hquit hwatches with ⟨⟨n, hreturned⟩, hrest⟩ | ⟨-, hends⟩
      · rw [hrest]
        refine ih ((hround hp).resolve_left ?_).2
        rintro ⟨haborted, -⟩
        rw [hreturned] at haborted
        cases haborted
      · obtain ⟨hloop, hhost, -, haborted⟩ := hends limit
        rw [hloop, hhost]
        refine (hround hp).imp (fun h => ⟨haborted.mpr h.1, h.2⟩)
          fun h => ⟨fun h' => h.1 (haborted.mp h'), h.2⟩

end MainLoop

end GadgetModes
