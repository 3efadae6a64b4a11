import GadgetModes.Proofs.Daemon.Histories

/-!
# A daemon at work

While the main loop of a daemon runs, its relay is linked to it (`AtWork`). Each round hands
over the oldest pending signal (`AtWork.round_oldest`). Once that was one that asks to end, no
further round is made, and the loop returns at its next look (`AtWork.look`).
-/

namespace GadgetModes.Daemon

open GadgetModes.Log GadgetModes.MainLoop GadgetModes.Relay

/-- A daemon whose main loop runs, with the signals that were delivered to it and those that
are pending. The loop is to quit as soon as a signal was handed over that asks for it, and
this is then the last one that was handed over. -/
structure AtWork (scanner : Scanner) (diagnostic : Bool) (given pending : List Signal)
    (d : Daemon) : Prop where
  exit : d.exit = none
  linked : ∃ id n,
    Linked ⟨id, ⟨n, .read⟩, conditions, ()⟩ n true given pending d.loop d.host
  trapped : ∀ t ∈ given, t ∈ trapped
  conserved : d.handled ++ pending = given
  quit : d.loop.quit = d.handled.any (· ∈ terminating)
  calm : ∀ t ∈ d.handled.dropLast, t ∉ terminating
  scanner : d.host.data.store.scanner = scanner
  diagnostic : d.host.data.diagnostic = diagnostic

namespace AtWork

variable {scanner : Scanner} {diagnostic : Bool} {given pending left : List Signal} {t : Signal}
  {d : Daemon}

theorem isAlive (hd : AtWork scanner diagnostic given pending d) : d.isAlive = true := by
  rw [Daemon.isAlive, hd.exit]
  rfl

theorem pending_eq (hd : AtWork scanner diagnostic given pending d) : d.pending = pending := by
  obtain ⟨id, n, hlinked⟩ := hd.linked
  rw [Daemon.pending, unread, hlinked.writeEnd, Option.bind_some, hlinked.pipe]
  exact signalsOf_wire pending

theorem endings_le (hd : AtWork scanner diagnostic given pending d) : endings given ≤ 1 := by
  obtain ⟨id, n, hlinked⟩ := hd.linked
  exact hlinked.bounded

theorem handled_eq_nil (hd : AtWork scanner diagnostic [] pending d) : d.handled = [] :=
  (List.append_eq_nil_iff.mp hd.conserved).1

/-- What becomes of a trapped signal. -/
theorem deliver (hd : AtWork scanner diagnostic given pending d) (ht : t ∈ Relay.trapped) :
    (d.deliver t).handled = d.handled ∧ (d.deliver t).host.data = d.host.data
      ∧ ((t ∈ terminating ∧ endings given = 1
            ∧ (d.deliver t).exit = some (.signal .abort))
          ∨ (¬(t ∈ terminating ∧ endings given = 1)
            ∧ AtWork scanner diagnostic (given ++ [t]) (pending ++ [t]) (d.deliver t))) := by
  obtain ⟨id, n, hlinked⟩ := hd.linked
  rw [Daemon.deliver, hd.isAlive, if_pos rfl]
  rcases hlinked.deliver ht with ⟨hdies, h', hdeliver, hlog, hdata⟩ |
    ⟨hlives, h', hdeliver, hlog, hdata, hlinked'⟩
  · rw [hdeliver]
    simp only [Bool.true_eq_false, or_false] at hdies
    exact ⟨congrArg (List.filterMap _) hlog, hdata, .inl ⟨hdies.1, hdies.2, rfl⟩⟩
  · rw [hdeliver]
    simp only [Bool.true_eq_false, or_false] at hlives
    have hhandled : ({ d with host := h' } : Daemon).handled = d.handled :=
      congrArg (List.filterMap _) hlog
    refine ⟨hhandled, hdata, .inr ⟨hlives, ?_⟩⟩
    exact
      { exit := hd.exit
        linked := ⟨id, n, hlinked'⟩
        trapped := by
          intro u hu
          rcases List.mem_append.mp hu with hu | hu
          · exact hd.trapped u hu
          · rwa [List.mem_singleton.mp hu]
        conserved := by rw [hhandled, ← List.append_assoc, hd.conserved]
        quit := by rw [hhandled]; exact hd.quit
        calm := by rw [hhandled]; exact hd.calm
        scanner := by rw [← hd.scanner, ← hdata]
        diagnostic := by rw [← hd.diagnostic, ← hdata] }

/-- A loop that was not asked to quit hands over the oldest signal. -/
theorem round_oldest (hd : AtWork scanner diagnostic given (t :: left) d)
    (hquit : d.loop.quit = false) :
    AtWork scanner diagnostic given left d.round
      ∧ d.round.handled = d.handled ++ [t]
      ∧ d.round.host.data = (handle t d.host.data).value.2 := by
  obtain ⟨id, n, hlinked⟩ := hd.linked
  have hround : d.round =
      { d with
        loop := { d.loop with quit := (handle t d.host.data).value.1 }
        host := handOver handle n t left d.host } := by
    rw [round, hd.isAlive, hquit, iterate_oldest (hlinked.serves rfl), hquit]
    rfl
  have hhandled : d.round.handled = d.handled ++ [t] := by
    rw [hround]
    show ((d.host.log ++ _ :: (handle t d.host.data).log).filterMap _) = _
    rw [List.filterMap_append, List.filterMap_cons, quiet_handle]
    rfl
  have ht : t ∈ Relay.trapped := hd.trapped t (by simp [← hd.conserved])
  have hnone : ∀ u ∈ d.handled, u ∉ terminating := by
    simpa [hd.quit] using hquit
  refine ⟨?_, hhandled, by rw [hround]; rfl⟩
  exact
    { exit := by rw [hround]; exact hd.exit
      linked := ⟨id, n, by
        rw [hround]
        exact { hlinked.handOver handle with watches := hlinked.watches }⟩
      trapped := hd.trapped
      conserved := by rw [hhandled, ← hd.conserved]; simp
      quit := by
        rw [hhandled, List.any_append, ← hd.quit, hquit, hround]
        show (handle t d.host.data).value.1 = _
        rw [handle_value]
        by_cases hhangup : t = .hangup
        · simp [hhangup, (by decide : Signal.hangup ∉ terminating)]
        · simp [hhangup, (mem_terminating_iff ht).mpr hhangup]
      calm := by rw [hhandled, List.dropLast_concat]; exact hnone
      scanner := by
        rw [hround, ← hd.scanner]
        show (handle t d.host.data).value.2.store.scanner = _
        rw [handle_value]
        split <;> rfl
      diagnostic := by
        rw [hround, ← hd.diagnostic]
        show (handle t d.host.data).value.2.diagnostic = _
        rw [handle_value]
        split <;> rfl }

/-- Without a pending signal a round changes nothing. -/
theorem round_idle (hd : AtWork scanner diagnostic given [] d) : d.round = d := by
  obtain ⟨id, n, hlinked⟩ := hd.linked
  rw [round]
  split
  · rw [iterate_idle (hlinked.serves rfl)]
    rfl
  · rfl

end AtWork

/-- A loop that was asked to quit makes no further round. -/
theorem round_of_quit {d : Daemon} (hquit : d.loop.quit = true) : d.round = d := by
  rw [round, hquit, Bool.not_true, Bool.and_false]
  rfl

namespace AtWork

variable {scanner : Scanner} {diagnostic : Bool} {given pending : List Signal} {d : Daemon}

/-- A loop that was asked to quit returns at its next look, and that ends the daemon. -/
theorem look (hd : AtWork scanner diagnostic given pending d) :
    d.move .look = if d.loop.quit then d.shutDown else d := by
  rw [move, advance, hd.isAlive, if_pos rfl]
  cases hquit : d.loop.quit with
  | true =>
      rw [rounds_quit hquit]
      rfl
  | false =>
      obtain ⟨id, n, hlinked⟩ := hd.linked
      have hwatches : ¬d.loop.watches.isEmpty = true := by simp [hlinked.watches]
      rw [rounds, if_neg (by simp [hquit]), if_neg hwatches]
      rfl

theorem wake (hd : AtWork scanner diagnostic given pending d) :
    AtWork scanner diagnostic given pending (d.move .wake)
      ∧ (d.move .wake).handled = d.handled ∧ (d.move .wake).host.data = d.host.data := by
  rw [move, hd.isAlive, if_pos rfl]
  have hhandled : ({ d with host := MainLoop.interrupted d.host } : Daemon).handled =
      d.handled := by
    simp [handled, MainLoop.interrupted, Host.report, Event.relayed?]
  refine ⟨?_, hhandled, rfl⟩
  obtain ⟨id, n, hlinked⟩ := hd.linked
  exact
    { hd with
      linked := ⟨id, n, { hlinked with }⟩
      conserved := by rw [hhandled]; exact hd.conserved
      quit := by rw [hhandled]; exact hd.quit
      calm := by rw [hhandled]; exact hd.calm }

theorem changeFiles (hd : AtWork scanner diagnostic given pending d)
    (change : FileSystem → FileSystem) :
    AtWork scanner diagnostic given pending (d.changeFiles change) := by
  obtain ⟨id, n, hlinked⟩ := hd.linked
  exact { hd with linked := ⟨id, n, { hlinked with }⟩ }

end AtWork

end GadgetModes.Daemon
