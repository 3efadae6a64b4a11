import GadgetModes.Proofs.Relay.Escalation
import GadgetModes.Proofs.Relay.Histories
import GadgetModes.Proofs.Relay.Rounds
import GadgetModes.Proofs.Relay.SettingUp

/-!
# The wiring of the relay

From the moment the relay is set up one pipe ties the signals to the loop that hands them
over. `Engaged` says what holds of the process then, whoever handles the signals: the pipe holds
whole messages, those of the pending signals; the relay keeps the write end; and the count is the
number of terminating signals, of which there was one at most. It also covers the time after the
watch was removed, when the read end is closed. `Linked` adds that the loop watches nothing else.

`Tied` is for handlers that write signals down, and says besides that the signals that were
raised are those that were written down and those that are pending. Setting up ties the relay
(`Established.tied`). Rounds and signals keep it tied, with other signals pending.
-/

namespace GadgetModes.Relay

open GadgetModes.Log GadgetModes.MainLoop

/-! ## Counting terminating signals -/

theorem isTermination_numberOf (t : Signal) :
    isTermination (numberOf t) = decide (t ∈ terminating) := by
  obtain ⟨n, hn⟩ := t
  obtain ⟨h1, h31⟩ := hn
  interval_cases n <;> rfl

/-- How many terminating signals there are among some. -/
def endings (signals : List Signal) : Nat :=
  signals.countP (· ∈ terminating)

theorem endings_append_singleton (signals : List Signal) (t : Signal) :
    endings (signals ++ [t]) = endings signals + if t ∈ terminating then 1 else 0 := by
  rw [endings, List.countP_append, List.countP_singleton, endings]
  simp

theorem endings_eq_one_iff {signals : List Signal} (h : endings signals ≤ 1) :
    endings signals = 1 ↔ ∃ u ∈ signals, u ∈ terminating := by
  have hpos : 0 < endings signals ↔ ∃ u ∈ signals, u ∈ terminating := by
    rw [endings, List.countP_pos_iff]
    simp
  rw [← hpos]
  omega

/-- What the counter says of a signal when it has counted right, and one at most. -/
theorem register_numberOf {c : EscalationCounter} {k : Nat} (hc : c.count.toNat = k)
    (hk : k ≤ 1) (t : Signal) :
    ∃ c' : EscalationCounter,
      c.register (numberOf t) =
          (if t ∈ terminating ∧ k = 1 then .abort else .proceed, c')
        ∧ c'.count.toNat = k + if t ∈ terminating then 1 else 0 := by
  have hone : ¬c.count = 0 ↔ k = 1 := by
    rw [← UInt32.toNat_inj, hc, UInt32.toNat_zero]
    omega
  rw [EscalationCounter.register_eq, isTermination_numberOf]
  by_cases ht : t ∈ terminating
  · refine ⟨⟨c.count + 1⟩, ?_, ?_⟩
    · by_cases hsecond : k = 1
      · simp [ht, hsecond, hone.mpr hsecond]
      · simp [ht, hsecond, not_not.mp (hone.not.mpr hsecond)]
    · have hnext : (c.count + 1).toNat = (c.count.toNat + 1) % UInt32.size := rfl
      rw [hnext, hc, if_pos ht, UInt32.size]
      omega
  · exact ⟨c, by simp [ht], by simpa [ht] using hc⟩

/-! ## What the relay is tied to -/

/-- The relay as it is after it was set up, as long as its pipe is read and after that, whoever
watches the pipe. -/
structure Engaged {α : Type} (n : Nat) (attached : Bool) (raised pending : List Signal)
    (h : Host α) : Prop where
  pipe : h.pipes.pipe? n = some ⟨wire pending, attached, true⟩
  writeEnd : h.relay.writeEnd = some ⟨n, .write⟩
  claimed : h.relay.claimed = true
  dispositions : ∀ t ∈ trapped, h.dispositions t = .relayed
  counted : h.relay.escalation.count.toNat = endings raised
  bounded : endings raised ≤ 1

/-- The host after a trapped signal was counted and written to the pipe of the relay. -/
def posted {α : Type} (n : Nat) (pending : List Signal) (t : Signal) (c : EscalationCounter)
    (h : Host α) : Host α :=
  { h with
    relay := { h.relay with escalation := c }
    pipes := h.pipes.set n ⟨wire (pending ++ [t]), true, true⟩ }

/-- What becomes of a trapped signal. It kills the process if it is the second that asks
the process to end, or if nobody reads the pipe; else it is in the pipe behind the others. -/
theorem Engaged.deliver {α : Type} {n : Nat} {attached : Bool} {raised pending : List Signal}
    {t : Signal} {h : Host α} (he : Engaged n attached raised pending h) (htrapped : t ∈ trapped) :
    ((t ∈ terminating ∧ endings raised = 1 ∨ attached = false)
        ∧ ∃ h', Relay.deliver h t = .died .abort h' ∧ h'.log = h.log ∧ h'.data = h.data)
      ∨ (¬(t ∈ terminating ∧ endings raised = 1 ∨ attached = false)
        ∧ ∃ c, Relay.deliver h t = .survived (posted n pending t c h)
          ∧ Engaged n attached (raised ++ [t]) (pending ++ [t]) (posted n pending t c h)) := by
  obtain ⟨c', hregister, hcount⟩ := register_numberOf he.counted he.bounded t
  rw [← endings_append_singleton] at hcount
  rw [Relay.deliver, he.dispositions t htrapped]
  simp only [trap, ← numberOf_eq, hregister]
  by_cases hsecond : t ∈ terminating ∧ endings raised = 1
  · rw [if_pos hsecond]
    exact .inl ⟨.inl hsecond, _, rfl, rfl, rfl⟩
  · rw [if_neg hsecond]
    simp only [send, he.writeEnd, Pipes.write_eq he.pipe rfl (encode_ne_nil _)]
    cases attached with
    | false => exact .inl ⟨.inr rfl, _, rfl, rfl, rfl⟩
    | true =>
        refine .inr ⟨by simpa using hsecond, c', ?_, ?_⟩
        · simp [posted, wire_append, wire_cons, Except.mapError, he.writeEnd]
        exact
          { he with
            pipe := Pipes.pipe?_set_self he.pipe _
            writeEnd := he.writeEnd
            claimed := he.claimed
            counted := hcount
            bounded := by
              have hone := he.bounded
              rw [endings_append_singleton]
              split <;> grind }

/-- The relay as it is while a loop is attached to its pipe by a watch and by nothing else, and
after that watch was removed. -/
structure Linked {κ α : Type} (watch : Watch κ) (n : Nat) (attached : Bool)
    (raised pending : List Signal) (l : MainLoop κ) (h : Host α) : Prop
    extends Engaged n attached raised pending h where
  watches : l.watches = if attached then [watch] else []
  fileLimit : 1 ≤ h.fileLimit

namespace Linked

variable {κ α : Type} {act : Callbacks κ α} {handler : Handler α} {watch : Watch κ} {n id : Nat}
  {k : κ} {attached : Bool} {raised pending left : List Signal} {t : Signal} {l : MainLoop κ}
  {h : Host α}

theorem serves (hl : Linked ⟨id, ⟨n, .read⟩, conditions, k⟩ n true raised pending l h)
    (hact : act k = dispatch handler) : Serves act handler n pending l h where
  watch := ⟨id, k, hl.watches, hact⟩
  pipe := hl.pipe
  fileLimit := hl.fileLimit

theorem handOver (hl : Linked watch n true raised (t :: left) l h) (handler : Handler α) :
    Linked watch n true raised left l (handOver handler n t left h) :=
  { hl with pipe := Pipes.pipe?_set_self hl.pipe _ }

/-- A signal that does not kill the process leaves the relay linked. -/
theorem deliver (hl : Linked watch n attached raised pending l h) (htrapped : t ∈ trapped) :
    ((t ∈ terminating ∧ endings raised = 1 ∨ attached = false)
        ∧ ∃ h', Relay.deliver h t = .died .abort h' ∧ h'.log = h.log ∧ h'.data = h.data)
      ∨ (¬(t ∈ terminating ∧ endings raised = 1 ∨ attached = false)
        ∧ ∃ h', Relay.deliver h t = .survived h' ∧ h'.log = h.log ∧ h'.data = h.data
          ∧ Linked watch n attached (raised ++ [t]) (pending ++ [t]) l h') := by
  refine (hl.toEngaged.deliver htrapped).imp_right ?_
  rintro ⟨hlives, c, hdeliver, hengaged⟩
  exact ⟨hlives, _, hdeliver, rfl, rfl, hengaged, hl.watches, hl.fileLimit⟩

end Linked

/-- Which loop the relay was set up on and for whom, with the numbers of its pipe and its
watch, and the faults that were reported before. -/
structure Wiring where
  loop : Fin 2
  recorder : Recorder
  pipe : Nat
  watch : Nat
  faults : List Event

def Wiring.entry (w : Wiring) : Watch Recorder :=
  ⟨w.watch, ⟨w.pipe, .read⟩, conditions, w.recorder⟩

/-- A linked relay whose handler writes signals down. -/
structure Tied (w : Wiring) (attached : Bool) (raised pending : List Signal)
    (l : MainLoop Recorder) (h : Host (List Signal)) : Prop
    extends Linked w.entry w.pipe attached raised pending l h where
  conserved : h.data ++ pending = raised
  faults : h.log.filter Event.isRelayFault = w.faults

namespace Tied

variable {w : Wiring} {attached : Bool} {raised pending left : List Signal} {t : Signal}
  {l : MainLoop Recorder} {h : Host (List Signal)}

theorem serves (ht : Tied w true raised pending l h) :
    Serves Recorder.act w.recorder.handle w.pipe pending l h :=
  ht.toLinked.serves rfl

/-- Reports that are no faults change nothing. -/
theorem report (ht : Tied w attached raised pending l h) {e : Event}
    (he : e.isRelayFault = false) : Tied w attached raised pending l (h.report e) :=
  { ht with faults := by simp [Host.report, he, ht.faults] }

/-- Of the loop only the watches count. -/
theorem of_watches (ht : Tied w attached raised pending l h) (l' : MainLoop Recorder)
    (hl : l'.watches = l.watches) : Tied w attached raised pending l' h :=
  { ht with watches := hl.trans ht.watches }

theorem handOver (ht : Tied w true raised (t :: left) l h) :
    Tied w true raised left l (handOver w.recorder.handle w.pipe t left h) where
  toLinked := ht.toLinked.handOver _
  conserved := by
    rw [← ht.conserved]
    simp [Relay.handOver, Recorder.handle]
  faults := by
    rw [← ht.faults]
    simp [Relay.handOver, Recorder.handle, Event.isRelayFault]

/-! ## Rounds and runs -/

theorem iterate (ht : Tied w true raised pending l h) (timed : Bool) :
    Outcome.Sound (l.iterate Recorder.act timed h).outcome
      ∧ Tied w true raised (pending.drop 1) (l.iterate Recorder.act timed h).loop
        (l.iterate Recorder.act timed h).host := by
  cases pending with
  | nil =>
      rw [iterate_idle ht.serves timed]
      cases timed <;> exact ⟨trivial, ht⟩
  | cons t left =>
      rw [iterate_oldest ht.serves timed]
      exact ⟨trivial, ht.handOver.of_watches _ rfl⟩

/-- A part of a run keeps the relay tied, with what is left in the pipe. -/
theorem rounds (ht : Tied w true raised pending l h) (limit : Nat) :
    Outcome.Sound (l.rounds Recorder.act limit h).outcome
      ∧ ∃ left, Tied w true raised left (l.rounds Recorder.act limit h).loop
        (l.rounds Recorder.act limit h).host := by
  refine rounds_keep (P := fun l h => ∃ left, Tied w true raised left l h) ?_ ?_ limit
    ⟨pending, ht⟩
  · rintro l h ⟨left, ht⟩ -
    exact ⟨(ht.iterate false).1, _, (ht.iterate false).2⟩
  · rintro l h ⟨left, ht⟩ -
    exact ⟨left, ht.report rfl⟩

/-! ## Signals -/

theorem deliver (ht : Tied w attached raised pending l h) (htrapped : t ∈ trapped) :
    ((t ∈ terminating ∧ endings raised = 1 ∨ attached = false)
        ∧ ∃ h', Relay.deliver h t = .died .abort h')
      ∨ (¬(t ∈ terminating ∧ endings raised = 1 ∨ attached = false)
        ∧ ∃ h', Relay.deliver h t = .survived h'
          ∧ Tied w attached (raised ++ [t]) (pending ++ [t]) l h') := by
  rcases ht.toLinked.deliver htrapped with ⟨hdies, h', hdeliver, -⟩ |
    ⟨hlives, h', hdeliver, hlog, hdata, hlinked⟩
  · exact .inl ⟨hdies, h', hdeliver⟩
  · refine .inr ⟨hlives, h', hdeliver, hlinked, ?_, by rw [hlog, ht.faults]⟩
    rw [hdata, ← List.append_assoc, ht.conserved]

/-! ## Another attempt and the end -/

/-- Setting up again fails and changes nothing. -/
theorem setUp {κ : Type} (ht : Tied w attached raised pending l h) (callback : κ)
    (l' : MainLoop κ) : Relay.setUp callback l' h = ⟨.failed claimedFailure, l', h⟩ := by
  rw [Relay.setUp, setUpFor, if_pos ht.claimed]

/-- Removing the watch closes the read end, and what is in the pipe stays there. -/
theorem removeWatch (ht : Tied w attached raised pending l h) :
    (l.removeWatch h w.watch).1 = attached
      ∧ Tied w false raised pending (l.removeWatch h w.watch).2.1
        (l.removeWatch h w.watch).2.2 := by
  cases attached with
  | false =>
      have hnone : l.watches.find? (·.id = w.watch) = none := by simp [ht.watches]
      rw [MainLoop.removeWatch, hnone]
      exact ⟨rfl, ht⟩
  | true =>
      have hsome : l.watches.find? (·.id = w.watch) = some w.entry := by
        simp [ht.watches, Wiring.entry]
      rw [MainLoop.removeWatch, hsome]
      refine ⟨rfl, ?_⟩
      refine report ?_ rfl
      exact
        { ht with
          watches := by simp [ht.watches, Wiring.entry]
          pipe := by
            rw [Host.close, Wiring.entry, Pipes.close_eq ht.pipe, Pipes.pipe?_set_self ht.pipe]
            rfl }

end Tied

/-! ## Setting up -/

/-- What setting up for some signals leaves behind when it succeeds. -/
structure Established {κ α : Type} (signals : List Signal) (callback : κ) (l : MainLoop κ)
    (h : Host α) (id : Nat) (l' : MainLoop κ) (h' : Host α) : Prop where
  id : id = l.nextId
  watches : l'.watches =
    l.watches ++ [⟨l.nextId, ⟨h.pipes.create.1, .read⟩, conditions, callback⟩]
  pipes : h'.pipes = h.pipes.create.2
  relay : h'.relay = ⟨true, .running, some ⟨h.pipes.create.1, .write⟩, h.relay.escalation⟩
  dispositions : ∀ t ∈ signals, h'.dispositions t = .relayed
  fileLimit : 1 ≤ h'.fileLimit
  data : h'.data = h.data

theorem established_of_returned {κ α : Type} {signals : List Signal} {callback : κ}
    {l : MainLoop κ} {h : Host α} {id : Nat}
    (houtcome : (setUpFor signals callback l h).outcome = .returned id) :
    Established signals callback l h id (setUpFor signals callback l h).loop
      (setUpFor signals callback l h).host := by
  have hattempted := setUpFor_attempted signals callback l h
  generalize setUpFor signals callback l h = turn at houtcome hattempted
  cases hattempted with
  | running hunclaimed hfiles hnone =>
      exact
        { id := (Outcome.returned.inj houtcome).symm
          watches := rfl
          pipes := rfl
          relay := rfl
          dispositions := fun t ht => if_pos ht
          fileLimit := Nat.le_trans (by simp [Host.standardFiles]) hfiles
          data := rfl }
  | _ => cases houtcome

/-- Where the relay is set up with success, it is engaged, and nothing is pending. -/
theorem Established.engaged {κ α : Type} {callback : κ} {id : Nat} {l l' : MainLoop κ}
    {h h' : Host α} (he : Established trapped callback l h id l' h')
    (hcount : h.relay.escalation.count = 0) : Engaged h.pipes.create.1 true [] [] h' where
  pipe := by rw [he.pipes]; exact Pipes.pipe?_create h.pipes
  writeEnd := by rw [he.relay]
  claimed := by rw [he.relay]
  dispositions := he.dispositions
  counted := by rw [he.relay, hcount]; rfl
  bounded := by decide

/-- On a loop without other watches it is linked to the loop. -/
theorem Established.linked {κ α : Type} {callback : κ} {id : Nat} {l l' : MainLoop κ}
    {h h' : Host α} (he : Established trapped callback l h id l' h')
    (hwatches : l.watches = []) (hcount : h.relay.escalation.count = 0) :
    Linked ⟨id, ⟨h.pipes.create.1, .read⟩, conditions, callback⟩ h.pipes.create.1 true [] []
      l' h' where
  toEngaged := he.engaged hcount
  watches := by rw [he.watches, hwatches, he.id]; rfl
  fileLimit := he.fileLimit

theorem Established.tied {i : Fin 2} {r : Recorder} {id : Nat} {l l' : MainLoop Recorder}
    {h h' : Host (List Signal)} (he : Established trapped r l h id l' h')
    (hwatches : l.watches = []) (hdata : h.data = [])
    (hcount : h.relay.escalation.count = 0) :
    Tied ⟨i, r, h.pipes.create.1, id, h'.log.filter Event.isRelayFault⟩ true [] [] l' h' where
  toLinked := he.linked hwatches hcount
  conserved := by rw [he.data, hdata]; rfl
  faults := rfl

end GadgetModes.Relay
