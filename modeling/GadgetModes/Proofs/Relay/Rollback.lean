import GadgetModes.Proofs.Relay.Attempts

/-!
# All signals or none

An attempt to set the relay up points all signals of a list at it, or none
(`set_up_all_or_nothing`). It fails at the first signal that cannot be trapped. The list may be
any: a signal that stands in it several times has, after a failure, the disposition that it had
before the first of them.
-/

namespace GadgetModes

open GadgetModes.Log

variable {κ α : Type}

namespace Pipes

/-! ## A pipe that is given up -/

/-- Both ends of a new pipe are closed again. -/
theorem close_create (ps : Pipes) :
    (ps.create.2.close ⟨ps.create.1, .read⟩).close ⟨ps.create.1, .write⟩ =
      ⟨ps.all ++ [⟨[], false, false⟩]⟩ := by
  have hnew := pipe?_create ps
  rw [close_eq hnew, close_eq (pipe?_set_self hnew _)]
  simp [create, set, Pipe.close]

theorem openCount_close_create (ps : Pipes) :
    ((ps.create.2.close ⟨ps.create.1, .read⟩).close ⟨ps.create.1, .write⟩).openCount =
      ps.openCount := by
  simp [close_create, openCount]

theorem pipe?_close_create (ps : Pipes) (m : Nat) :
    ((ps.create.2.close ⟨ps.create.1, .read⟩).close ⟨ps.create.1, .write⟩).pipe? m =
      if m = ps.create.1 then some ⟨[], false, false⟩ else ps.pipe? m := by
  rw [close_create]
  show (ps.all ++ [(⟨[], false, false⟩ : Pipe)])[m]? =
    if m = ps.all.length then some ⟨[], false, false⟩ else ps.all[m]?
  grind

end Pipes

namespace MainLoop

/-- A watch that was just added is taken off again, and no other. -/
theorem removeWatch_addWatch {l : MainLoop κ} (hnumbers : ∀ w ∈ l.watches, w.id < l.nextId)
    (h g : Host α) (d : Descriptor) (conditions : PollFlags) (callback : κ) :
    (l.addWatch h d conditions callback).2.1.removeWatch g l.nextId =
      (true, { l with nextId := l.nextId + 1 }, (g.close d).report (.watchRemoved l.nextId)) := by
  have hold : ∀ w ∈ l.watches, w.id ≠ l.nextId := fun w hw => Nat.ne_of_lt (hnumbers w hw)
  have hfind : l.watches.find? (·.id = l.nextId) = none := by simpa using hold
  have hkept : l.watches.filter (·.id ≠ l.nextId) = l.watches := by simpa using hold
  simp only [removeWatch, addWatch, List.find?_append, hfind, List.filter_append, hkept]
  simp

end MainLoop

namespace Relay

/-! ## The two outcomes for a list of signals -/

/-- A host in which the relay can be set up, as far as it does not depend on signals. -/
structure Open (h : Host α) : Prop where
  unclaimed : h.relay.claimed = false
  files : Host.standardFiles + h.pipes.openCount + 2 ≤ h.fileLimit
  refused : h.refused = []

namespace Open

variable {signals : List Signal} {l : MainLoop κ} {h : Host α} {s : Signal}

theorem of_createPipe {n : Nat} {made : Host α} (hunclaimed : h.relay.claimed = false)
    (hrefused : h.refused = []) (hcreate : h.createPipe = .ok (n, made)) :
    Open h ∧ n = h.pipes.create.1 := by
  rw [Host.createPipe] at hcreate
  split at hcreate
  · cases hcreate
  · next hfiles =>
    exact ⟨⟨hunclaimed, Nat.le_of_not_lt hfiles, hrefused⟩,
      (Prod.mk.inj (Except.ok.inj hcreate)).1.symm⟩

theorem refuses (ho : Open h) : h.refuses = Signal.isUntrappable := by
  funext s
  simp [Host.refuses, ho.refused]

theorem setUpFor_running (ho : Open h) (htrappable : ∀ s ∈ signals, s.isUntrappable = false)
    (callback : κ) (l : MainLoop κ) :
    setUpFor signals callback l h =
      ⟨.returned l.nextId, (watching callback l h).2.1,
        running signals (watching callback l h).2.2⟩ := by
  have hnone : signals.find? h.refuses = none := by simpa [ho.refuses] using htrappable
  have hattempted := setUpFor_attempted signals callback l h
  generalize setUpFor signals callback l h = turn at hattempted
  cases hattempted with
  | running => rfl
  | claimed hclaimed => exact absurd (ho.unclaimed.symm.trans hclaimed) Bool.false_ne_true
  | noPipe _ hfiles => exact absurd ho.files (Nat.not_le.mpr hfiles)
  | refused _ _ hfirst => simp [hnone] at hfirst

theorem setUpFor_refused (ho : Open h) (hfirst : signals.find? Signal.isUntrappable = some s)
    (callback : κ) (l : MainLoop κ) :
    setUpFor signals callback l h =
      ⟨.failed (trapFailure s .invalidArgument),
        (unwatching (trapFailure s .invalidArgument) callback l h).2.1,
        (unwatching (trapFailure s .invalidArgument) callback l h).2.2.close
          ⟨h.pipes.create.1, .write⟩⟩ := by
  rw [← ho.refuses] at hfirst
  have hattempted := setUpFor_attempted signals callback l h
  generalize setUpFor signals callback l h = turn at hattempted
  cases hattempted with
  | refused _ _ hfirst' =>
      obtain rfl := Option.some.inj (hfirst.symm.trans hfirst')
      rfl
  | claimed hclaimed => exact absurd (ho.unclaimed.symm.trans hclaimed) Bool.false_ne_true
  | noPipe _ hfiles => exact absurd ho.files (Nat.not_le.mpr hfiles)
  | running _ _ hnone => simp [hfirst] at hnone

end Open

/-! ## What is taken back -/

/-- What is left of an attempt that was taken back: a pipe with closed ends. -/
structure TakenBack (n : Nat) (l : MainLoop κ) (h : Host α) (l' : MainLoop κ) (h' : Host α) :
    Prop where
  dispositions : ∀ t, h'.dispositions t = h.dispositions t
  watches : l'.watches = l.watches
  ends : ∀ side, h'.pipes.isOpen ⟨n, side⟩ = false
  otherPipes : ∀ m, m ≠ n → h'.pipes.pipe? m = h.pipes.pipe? m
  writeEnd : h'.relay.writeEnd = none
  stage : h'.relay.stage = .uninitialized
  /-- The relay can be set up later, on any loop and for any signals that can be trapped. -/
  again : ∀ (later : List Signal) (callback : κ) (l'' : MainLoop κ),
    (∀ s ∈ later, s.isUntrappable = false) →
      (setUpFor later callback l'' h').outcome = .returned l''.nextId

theorem Open.takenBack {l : MainLoop κ} {h : Host α} (ho : Open h)
    (hnumbers : ∀ w ∈ l.watches, w.id < l.nextId) (failure : Failure) (callback : κ) :
    TakenBack h.pipes.create.1 l h (unwatching failure callback l h).2.1
      ((unwatching failure callback l h).2.2.close ⟨h.pipes.create.1, .write⟩) := by
  rw [unwatching, watching, MainLoop.removeWatch_addWatch hnumbers]
  have hpipes := Pipes.pipe?_close_create h.pipes
  constructor
  case dispositions => exact fun _ => rfl
  case watches => rfl
  case ends =>
    intro side
    refine (Pipes.isOpen_eq ((hpipes _).trans (if_pos rfl)) side).trans ?_
    cases side <;> rfl
  case otherPipes => exact fun m hm => (hpipes m).trans (if_neg hm)
  case writeEnd => rfl
  case stage => rfl
  case again =>
    intro later callback' l' htrappable
    refine congrArg Turn.outcome (setUpFor_running ?_ htrappable callback' l')
    refine ⟨rfl, ?_, ho.refused⟩
    refine Nat.le_trans (Nat.le_of_eq ?_) ho.files
    exact congrArg (_ + · + 2) (Pipes.openCount_close_create _)

/-! ## All or none -/

/-- An attempt to set the relay up for a list of signals succeeds if all of them can be trapped.
Then they go to the relay, and all other signals where they went before; so the relay gets these
signals and no other, if it got none before. Otherwise it fails at the first signal that cannot
be trapped, and everything is taken back that was done until then. -/
theorem set_up_all_or_nothing (signals : List Signal) (callback : κ) {l : MainLoop κ}
    {h made : Host α} {n : Nat} (hnumbers : ∀ w ∈ l.watches, w.id < l.nextId)
    (hunclaimed : h.relay.claimed = false) (hrefused : h.refused = [])
    (hcreate : h.createPipe = .ok (n, made)) :
    ((∃ id, (setUpFor signals callback l h).outcome = .returned id) ↔
        ∀ s ∈ signals, s.isUntrappable = false)
      ∧ ((∀ s ∈ signals, s.isUntrappable = false) →
        (∀ t, (setUpFor signals callback l h).host.dispositions t =
            if t ∈ signals then .relayed else h.dispositions t)
          ∧ ((∀ t, h.dispositions t ≠ .relayed) →
            ∀ t, (setUpFor signals callback l h).host.dispositions t = .relayed ↔ t ∈ signals))
      ∧ ∀ before s after, signals = before ++ s :: after →
          (∀ t ∈ before, t.isUntrappable = false) → s.isUntrappable = true →
            (setUpFor signals callback l h).outcome =
                .failed (.signal ("failed to trap " ++ s.name ++ ": "
                  ++ Errno.invalidArgument.named))
              ∧ TakenBack n l h (setUpFor signals callback l h).loop
                (setUpFor signals callback l h).host := by
  obtain ⟨ho, rfl⟩ := Open.of_createPipe hunclaimed hrefused hcreate
  refine ⟨⟨?_, ?_⟩, ?_, ?_⟩
  · rintro ⟨id, hreturned⟩ s hs
    by_contra huntrappable
    obtain ⟨first, hfirst⟩ : ∃ first, signals.find? Signal.isUntrappable = some first := by
      rw [← Option.isSome_iff_exists, List.find?_isSome]
      exact ⟨s, hs, by simpa using huntrappable⟩
    rw [ho.setUpFor_refused hfirst] at hreturned
    cases hreturned
  · intro htrappable
    exact ⟨_, congrArg Turn.outcome (ho.setUpFor_running htrappable callback l)⟩
  · intro htrappable
    have hpointed : ∀ t, (setUpFor signals callback l h).host.dispositions t =
        if t ∈ signals then .relayed else h.dispositions t := by
      rw [ho.setUpFor_running htrappable]
      exact fun _ => rfl
    refine ⟨hpointed, fun hunrelayed t => ?_⟩
    rw [hpointed]
    by_cases ht : t ∈ signals <;> simp [ht, hunrelayed]
  · intro before s after hsignals hbefore hs
    have hfirst : signals.find? Signal.isUntrappable = some s := by
      rw [hsignals, List.find?_eq_some_iff_append]
      exact ⟨hs, before, after, rfl, by simpa using hbefore⟩
    rw [ho.setUpFor_refused hfirst]
    exact ⟨rfl, ho.takenBack hnumbers _ callback⟩

section Example

def firstUser : Signal := ⟨10, by decide⟩

/-- A host in which a handler is set for the first signal of users. -/
def handlingUser : Host Unit :=
  ({ data := () } : Host Unit).point firstUser (.handled 7)

/-- The first signal of users stands in the list before and after a hangup, and two signals
follow that cannot be trapped. It gets its handler back. -/
theorem set_up_all_or_nothing_twice :
    let turn := setUpFor [firstUser, .hangup, firstUser, .kill, .stop] ()
      (({} : MainLoop Unit).addWatch handlingUser ⟨3, .read⟩ {} ()).2.1 handlingUser
    turn.outcome = .failed (.signal "failed to trap SIGKILL: EINVAL: Invalid argument")
      ∧ turn.host.dispositions firstUser = .handled 7
      ∧ turn.loop.watches = [⟨1, ⟨3, .read⟩, {}, ()⟩]
      ∧ (setUp () turn.loop turn.host).outcome = .returned 3 := by
  obtain ⟨houtcome, htaken⟩ :=
    (set_up_all_or_nothing [firstUser, .hangup, firstUser, .kill, .stop] ()
      (l := (({} : MainLoop Unit).addWatch handlingUser ⟨3, .read⟩ {} ()).2.1)
      (h := handlingUser) (by decide) rfl rfl rfl).2.2
      [firstUser, .hangup, firstUser] .kill [.stop] rfl (by decide) rfl
  exact ⟨houtcome.trans (by decide +kernel), htaken.dispositions _, htaken.watches,
    htaken.again trapped () _ (by decide)⟩

end Example

end Relay

end GadgetModes
