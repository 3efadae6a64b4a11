import GadgetModes.Proofs.Relay.Once

/-!
# The relay among strangers

The loops of a process may watch for strangers besides the relay, whose callbacks do anything
that leaves the relay alone. For the signals that makes no difference: each round of the loop of
the relay hands over the oldest that is pending (`round_among_strangers`), and what kills the
process is what would kill it without strangers, or a stranger (`aborts_among_strangers`).
-/

namespace GadgetModes.Relay

open GadgetModes.Log GadgetModes.MainLoop

variable {ι κ ο β : Type} [DecidableEq ι] {prog : Program κ ο β} {p p₁ q : Process ι κ ο β}
  {i : ι} {x : Line κ} {attached : Bool} {raised pending : List Signal} {k : κ} {id : Nat}
  {before after : List (Deed ι κ ο β)}

namespace InUse

/-- A round of the loop that is attached to the relay, unless a stranger brings the process
down. -/
theorem iterate (prog : Program κ ο β) (hp : InUse i x true raised pending p) (timed : Bool) :
    (p.act prog (.iterate i timed) = none ∧ StrangerAborts prog (p.loops i))
      ∨ ∃ q, p.act prog (.iterate i timed) = some q
        ∧ q.host.data.notes =
          p.host.data.notes ++ (due (p.loops i) p.host pending).map (x.handler, ·)
        ∧ ∃ left, pending = due (p.loops i) p.host pending ++ left
          ∧ InUse i x true raised left q := by
  have hi : Tended (some x) (p.loops i) p.host := by simpa using hp.loops i
  have hc : Carries x pending p.host := ⟨by rw [pipeOf, hp.writeEnd]; rfl, hp.pipe⟩
  rcases hi.iterate_some hc prog timed with
    ⟨haborted, haborts⟩ | ⟨hlives, hhanded, htended⟩
  · exact .inl ⟨by rw [Process.act, Process.after, haborted], haborts⟩
  · have hloops := tended_withLoop (i := i) hp.loops hhanded.apart (fun _ _ => rfl)
      (by simpa using htended)
    obtain ⟨left, hpending, hq⟩ := hp.of_handed (q := p.withLoop i _ _) hhanded hloops
    refine .inr ⟨_, after_of_lives hlives, hhanded.noted, left, ?_, hq⟩
    rw [List.map_map] at hpending
    simpa using hpending

/-- Of what can be done to a relay in use only signals can kill the process, and strangers. -/
theorem of_act_none (hp : InUse i x attached raised pending p) {d : Deed ι κ ο β}
    (hact : p.act prog d = none) :
    (∃ t, d = .raise t) ∨ ∃ j, d.rounds? = some j ∧ StrangerAborts prog (p.loops j) := by
  have hrounds : ∀ {j}, d.rounds? = some j →
      (∃ t, d = .raise t) ∨ ∃ j, d.rounds? = some j ∧ StrangerAborts prog (p.loops j) := by
    intro j hd
    refine .inr ⟨j, hd, ((hp.rounds prog hd).resolve_right ?_).2⟩
    rintro ⟨q, hq, -⟩
    rw [hact] at hq
    cases hq
  cases d with
  | setUp j k =>
      rw [hp.act_setUp] at hact
      cases hact
  | raise t => exact .inl ⟨t, rfl⟩
  | iterate j timed => exact hrounds rfl
  | begin j limit => exact hrounds rfl
  | goOn j limit => exact hrounds rfl
  | removeWatch j id => cases hact
  | watch j asked o =>
      rw [Process.act] at hact
      split at hact <;> cases hact
  | other change spares => cases hact

end InUse

/-- As long as the watch of the relay is there, a round of its loop hands the signal that is due
to the handler that the relay was set up for: the oldest that is pending, or none where none is
or the poll fails. The others stay pending. -/
theorem round_among_strangers (hfresh : p.Fresh) (hbefore : p.acts prog before = some p₁)
    (hsetUp : (setUp (.inl k) (p₁.loops i) p₁.host).outcome = .returned id)
    (hafter : p₁.acts prog (.setUp i k :: after) = some q)
    (hthere : after.any (·.removes i id) = false) (timed : Bool) :
    (q.act prog (.iterate i timed) = none ∧ StrangerAborts prog (q.loops i))
      ∨ ∃ q', q.act prog (.iterate i timed) = some q'
        ∧ q'.host.data.notes =
          q.host.data.notes ++ (due (q.loops i) q.host q.pending).map (k, ·)
        ∧ q.pending = due (q.loops i) q.host q.pending ++ q'.pending := by
  obtain ⟨n, signals, -, -, hq⟩ := inUse_of_acts hfresh hbefore hsetUp hafter
  rw [hthere] at hq
  refine (hq.iterate prog timed).imp_right ?_
  rintro ⟨q', hact, hnotes, left, hpending, hq'⟩
  exact ⟨q', hact, hnotes, by rw [hq'.pending_eq, ← hpending]⟩

/-- After the relay was set up, a signal that it is for kills the process if it is the second
that asks the process to end, or if the watch of the relay is gone. Besides signals only a
stranger kills it, in a round of a loop that watches for him. The relay counts the signals that
ask the process to end, of which there was one at most. -/
theorem aborts_among_strangers (hfresh : p.Fresh) (hbefore : p.acts prog before = some p₁)
    (hsetUp : (setUp (.inl k) (p₁.loops i) p₁.host).outcome = .returned id)
    (hafter : p₁.acts prog (.setUp i k :: after) = some q) :
    (∀ t ∈ trapped, q.act prog (.raise t) = none ↔
        (t ∈ terminating ∧ ∃ u ∈ after.flatMap Deed.raises, u ∈ terminating)
          ∨ after.any (·.removes i id) = true)
      ∧ (∀ d, q.act prog d = none →
        (∃ t, d = .raise t) ∨ ∃ j, d.rounds? = some j ∧ StrangerAborts prog (q.loops j))
      ∧ q.host.relay.escalation.count.toNat = endings (after.flatMap Deed.raises)
      ∧ endings (after.flatMap Deed.raises) ≤ 1 := by
  obtain ⟨n, signals, -, -, hq⟩ := inUse_of_acts hfresh hbefore hsetUp hafter
  refine ⟨fun t ht => ?_, fun d => hq.of_act_none, hq.counted, hq.bounded⟩
  rw [← endings_eq_one_iff hq.bounded, ← Bool.not_eq_false']
  rcases hq.raise prog ht with ⟨hdies, hact⟩ | ⟨hlives, q', hact, -⟩
  · exact iff_of_true hact hdies
  · rw [hact]
    exact iff_of_false (by simp) hlives

section Example

/-- A program with one handler that does nothing, and a stranger who goes when he is called. -/
def goingProgram : Program Unit Unit Unit where
  handlers := fun _ _ _ => return (false, ())
  strangers := fun _ _ _ h => .done .remove false h
  spares := by
    intro o d revents h action quits h' _ hreply
    obtain ⟨-, -, rfl⟩ := Reply.done.inj hreply
    exact Spares.refl h

/-- The write end of the first pipe is closed, if that pipe is not the relay's. -/
def firstShut : Deed (Fin 1) Unit Unit Unit :=
  .other (fun h => if pipeOf h = some 0 then h else h.close ⟨0, .write⟩) fun h => by
    split
    · exact .refl h
    · next hpipe => exact spares_close hpipe

/-- The stranger goes in the round that hands the signal over. -/
example :
    ((⟨fun _ => {}, { data := ⟨(), []⟩ }⟩ : Process (Fin 1) Unit Unit Unit).acts goingProgram
        [.watch 0 { hangup := true } (), .setUp 0 (), firstShut, .raise .hangup,
          .iterate 0 true]).map (fun q => (q.host.data.notes, (q.loops 0).watches.map (·.id))) =
      some ([((), .hangup)], [2]) := by
  decide +kernel

end Example

end GadgetModes.Relay
