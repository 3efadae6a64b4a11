import GadgetModes.Proofs.Relay.Attempts
import GadgetModes.Proofs.Relay.Processes

/-!
# One relay in a process

In a process with any loops the relay may be set up at any time, on any loop and for any
handler. Until an attempt succeeds nothing belongs to the relay (`Idle`). The first that succeeds
is the last (`set_up_once`): the relay runs from then on, whatever happens in the process, and
also after its watch was removed; every further attempt is refused and changes nothing; and
signals go to the first handler, on the first loop, as long as the watch is there (`InUse`).
-/

namespace GadgetModes.Relay

open GadgetModes.Log GadgetModes.MainLoop

/-! ## Processes -/

structure Process (ι κ ο β : Type) where
  loops : ι → MainLoop (κ ⊕ ο)
  host : Host (Noted κ β)

/-- What can happen next in a process, as long as no signal ends it. -/
inductive Deed (ι κ ο β : Type) where
  | setUp (loop : ι) (handler : κ)
  | raise (signal : Signal)
  | iterate (loop : ι) (timed : Bool)
  /-- A run of a loop starts, and makes a number of rounds at most. -/
  | begin (loop : ι) (limit : Nat)
  /-- A run goes on for a number of rounds at most. -/
  | goOn (loop : ι) (limit : Nat)
  | removeWatch (loop : ι) (id : Nat)
  /-- A pipe is made, and its read end is watched by a stranger. -/
  | watch (loop : ι) (asked : PollFlags) (stranger : ο)
  /-- Anything else that leaves the relay alone: a sleeping loop is woken, other pipes are
  written to, files are limited, signals begin to refuse. -/
  | other (change : Host (Noted κ β) → Host (Noted κ β)) (spares : ∀ h, Spares h (change h))

namespace Deed

variable {ι κ ο β : Type}

/-- The signals of a deed that the relay is for. -/
def raises : Deed ι κ ο β → List Signal
  | .raise t => if t ∈ trapped then [t] else []
  | _ => []

def removes [DecidableEq ι] (i : ι) (id : Nat) : Deed ι κ ο β → Bool
  | .removeWatch j id' => j = i ∧ id' = id
  | _ => false

def rounds? : Deed ι κ ο β → Option ι
  | .iterate j _ | .begin j _ | .goOn j _ => some j
  | _ => none

end Deed

namespace Process

variable {ι κ ο β : Type}

/-- The signals that are in the pipe of the relay. -/
def pending (p : Process ι κ ο β) : List Signal :=
  signalsOf (((pipeOf p.host).bind p.host.pipes.pipe?).elim [] (·.buffered))

/-- A process that was just started. Signals may be ignored or handled from the start. -/
structure Fresh (p : Process ι κ ο β) : Prop where
  relay : p.host.relay = {}
  unrelayed : ∀ t, p.host.dispositions t ≠ .relayed
  unwatched : ∀ j, (p.loops j).watches = []

variable [DecidableEq ι]

def withLoop (p : Process ι κ ο β) (i : ι) (l : MainLoop (κ ⊕ ο)) (h : Host (Noted κ β)) :
    Process ι κ ο β where
  loops := Function.update p.loops i l
  host := h

/-- A process after a turn of a loop; there is none if the turn aborted it. -/
def after {γ : Type} (p : Process ι κ ο β) (i : ι) (turn : Turn (κ ⊕ ο) (Noted κ β) γ) :
    Option (Process ι κ ο β) :=
  match turn.outcome with
  | .aborted => none
  | _ => some (p.withLoop i turn.loop turn.host)

/-- What is left of a process after a deed, unless the process died of it. -/
def act (prog : Program κ ο β) (p : Process ι κ ο β) : Deed ι κ ο β → Option (Process ι κ ο β)
  | .setUp i k => p.after i (Relay.setUp (.inl k) (p.loops i) p.host)
  | .raise t =>
    match deliver p.host t with
    | .survived host => some { p with host }
    | .died _ _ => none
  | .iterate i timed => p.after i ((p.loops i).iterate prog.act timed p.host)
  | .begin i limit => p.after i ((p.loops i).run prog.act limit p.host)
  | .goOn i limit => p.after i ((p.loops i).rounds prog.act limit p.host)
  | .removeWatch i id =>
    let (_, loop, host) := (p.loops i).removeWatch p.host id
    some (p.withLoop i loop host)
  | .watch i asked stranger =>
    match p.host.createPipe with
    | .error _ => some p
    | .ok (n, host) =>
      let (_, loop, host) := (p.loops i).addWatch host ⟨n, .read⟩ asked (.inr stranger)
      some (p.withLoop i loop host)
  | .other change _ => some { p with host := change p.host }

def acts (prog : Program κ ο β) (p : Process ι κ ο β) : List (Deed ι κ ο β) →
    Option (Process ι κ ο β)
  | [] => some p
  | d :: deeds => (p.act prog d).bind (·.acts prog deeds)

end Process

variable {ι κ ο β : Type} {prog : Program κ ο β} {p q : Process ι κ ο β}
  {h h' : Host (Noted κ β)} {i j : ι} {x : Line κ} {attached : Bool} {pending : List Signal}
  {notes : List (κ × Signal)} {t : Signal}

/-! ## What is done to hosts -/

/-- Nothing comes of a signal that the process survives and that is not for the relay. -/
theorem deliver_unrelayed {α : Type} {h h' : Host α} (hd : h.dispositions t ≠ .relayed)
    (hsurvived : deliver h t = .survived h') : h' = h := by
  rw [deliver] at hsurvived
  split at hsurvived
  · next hrelayed => exact absurd hrelayed hd
  · exact (Delivery.survived.inj hsurvived).symm
  · exact (Delivery.survived.inj hsurvived).symm
  · split at hsurvived
    · cases hsurvived
    · exact (Delivery.survived.inj hsurvived).symm

/-- A new pipe is none that there was. -/
theorem spares_createPipe {n : Nat} (hcreate : h.createPipe = .ok (n, h'))
    (hmade : ∀ m, pipeOf h = some m → ∃ p, h.pipes.pipe? m = some p) :
    Spares h h' ∧ (∃ p, h'.pipes.pipe? n = some p) ∧ pipeOf h' ≠ some n := by
  rw [Host.createPipe] at hcreate
  split at hcreate
  · cases hcreate
  · obtain ⟨rfl, rfl⟩ := Prod.mk.inj (Except.ok.inj hcreate)
    have hsame : ∀ m q, h.pipes.pipe? m = some q → h.pipes.create.2.pipe? m = some q := by
      intro m q hq
      exact (List.getElem?_append_left (List.getElem?_eq_some_iff.mp hq).1).trans hq
    refine ⟨⟨rfl, rfl, rfl, ?_, fun m q hq => ⟨q, hsame m q hq⟩⟩,
      ⟨_, Pipes.pipe?_create h.pipes⟩, ?_⟩
    · intro m hm
      obtain ⟨q, hq⟩ := hmade m hm
      exact (hsame m q hq).trans hq.symm
    · intro hn
      obtain ⟨q, hq⟩ := hmade _ hn
      exact absurd (List.getElem?_eq_some_iff.mp hq).1 (Nat.lt_irrefl _)

/-! ## Before the relay is set up, and after -/

/-- Nothing belongs to the relay. -/
structure Idle (p : Process ι κ ο β) : Prop where
  writeEnd : p.host.relay.writeEnd = none
  count : p.host.relay.escalation.count = 0
  unrelayed : ∀ t, p.host.dispositions t ≠ .relayed
  loops : ∀ j, Tended none (p.loops j) p.host

theorem Idle.pipeOf (hp : Idle p) : pipeOf p.host = none := by
  rw [Relay.pipeOf, hp.writeEnd]
  rfl

theorem Idle.of_spares (hp : Idle p) (hs : Spares p.host h) {loops : ι → MainLoop (κ ⊕ ο)}
    (hloops : ∀ j, Tended none (loops j) h) : Idle (⟨loops, h⟩ : Process ι κ ο β) where
  writeEnd := by rw [hs.relay]; exact hp.writeEnd
  count := by rw [hs.relay]; exact hp.count
  unrelayed := by rw [hs.dispositions]; exact hp.unrelayed
  loops := hloops

theorem Process.Fresh.idle (hp : p.Fresh) : Idle p where
  writeEnd := by rw [hp.relay]
  count := by rw [hp.relay]
  unrelayed := hp.unrelayed
  loops := by
    intro j
    constructor
    case there => rintro y ⟨⟩
    case watches => simp [hp.unwatched j]
    case numbers => simp [hp.unwatched j]
    case numbered => simp [Numbered, hp.unwatched j]

variable [DecidableEq ι]

/-- The relay is set up, for the handler of a line and on a loop that is attached to it or not
any more. -/
structure InUse (i : ι) (x : Line κ) (attached : Bool) (raised pending : List Signal)
    (p : Process ι κ ο β) : Prop extends Engaged x.pipe attached raised pending p.host where
  stage : p.host.relay.stage = .running
  unrelayed : ∀ t, t ∉ trapped → p.host.dispositions t ≠ .relayed
  loops : ∀ j, Tended (if attached ∧ j = i then some x else none) (p.loops j) p.host

/-! ## Turns of a loop -/

theorem of_after {γ : Type} {turn : Turn (κ ⊕ ο) (Noted κ β) γ} (h : p.after i turn = some q) :
    turn.outcome ≠ .aborted ∧ q = p.withLoop i turn.loop turn.host := by
  rw [Process.after] at h
  split at h
  · cases h
  · next hlives => exact ⟨hlives, (Option.some.inj h).symm⟩

/-- If one loop is tended after a turn, and nothing came closer to the others, all are. -/
theorem tended_withLoop {line : ι → Option (Line κ)} {l : MainLoop (κ ⊕ ο)}
    (hp : ∀ j, Tended (line j) (p.loops j) p.host) (ha : Apart p.host h)
    {line' : ι → Option (Line κ)} (hline : ∀ j, j ≠ i → line' j = line j)
    (hl : Tended (line' i) l h) (j : ι) :
    Tended (line' j) ((p.withLoop i l h).loops j) h := by
  by_cases hj : j = i
  · subst hj
    simpa only [Process.withLoop, Function.update_self] using hl
  · rw [hline j hj]
    simpa only [Process.withLoop, Function.update_of_ne hj] using (hp j).of_apart ha

theorem after_of_lives {γ : Type} {turn : Turn (κ ⊕ ο) (Noted κ β) γ}
    (hlives : turn.outcome ≠ .aborted) :
    p.after i turn = some (p.withLoop i turn.loop turn.host) := by
  rw [Process.after]
  split
  · next haborted => exact absurd haborted hlives
  · rfl

/-- The rounds of a tended loop hand signals to no handler but that of its line, and only a
stranger can bring the process down in them. -/
theorem act_rounds (prog : Program κ ο β) (line : ι → Option (Line κ)) {d : Deed ι κ ο β}
    (hd : d.rounds? = some i) (hp : ∀ j, Tended (line j) (p.loops j) p.host)
    (hcarries : ∀ x, line i = some x → ∃ pending, Carries x pending p.host) :
    (p.act prog d = none ∧ StrangerAborts prog (p.loops i))
      ∨ ∃ q, p.act prog d = some q ∧ HandedOn (line i) p.host q.host
        ∧ ∀ j, Tended (line j) (q.loops j) q.host := by
  have hturn : ∀ {γ : Type} {turn : Turn (κ ⊕ ο) (Noted κ β) γ}, p.act prog d = p.after i turn →
      ((turn.outcome = .aborted ∧ StrangerAborts prog (p.loops i))
        ∨ (turn.outcome ≠ .aborted ∧ HandedOn (line i) p.host turn.host
          ∧ Tended (line i) turn.loop turn.host)) →
      (p.act prog d = none ∧ StrangerAborts prog (p.loops i))
        ∨ ∃ q, p.act prog d = some q ∧ HandedOn (line i) p.host q.host
          ∧ ∀ j, Tended (line j) (q.loops j) q.host := by
    rintro γ turn hact (⟨haborted, haborts⟩ | ⟨hlives, hhanded, htended⟩)
    · exact .inl ⟨by rw [hact, Process.after, haborted], haborts⟩
    · exact .inr ⟨_, hact.trans (after_of_lives hlives), hhanded,
        tended_withLoop hp hhanded.apart (fun _ _ => rfl) htended⟩
  cases d with
  | iterate j timed =>
      obtain rfl := Option.some.inj hd
      exact hturn rfl ((hp j).iterate hcarries prog timed)
  | begin j limit =>
      obtain rfl := Option.some.inj hd
      have hforgotten : Tended (line j) { p.loops j with quit := false } p.host :=
        (hp j).of_eq rfl rfl
      exact hturn rfl (hforgotten.rounds hcarries prog limit)
  | goOn j limit =>
      obtain rfl := Option.some.inj hd
      exact hturn rfl ((hp j).rounds hcarries prog limit)
  | _ => cases hd

/-! ## Idle processes -/

namespace Idle

/-- An attempt that fails leaves the process idle. -/
theorem setUp_failed (hp : Idle p) (k : κ)
    (houtcome : ∀ id, (Relay.setUp (.inl k) (p.loops i) p.host).outcome ≠ .returned id) :
    Idle (p.withLoop i (Relay.setUp (.inl k) (p.loops i) p.host).loop
      (Relay.setUp (.inl k) (p.loops i) p.host).host) := by
  have hundone := undone_of_not_returned houtcome
  have hwriteEnd : (Relay.setUp (.inl k) (p.loops i) p.host).host.relay.writeEnd = none := by
    rcases hundone.writeEnd with hnone | hsame
    · exact hnone
    · exact (congrArg _ hsame).trans hp.writeEnd
  have hapart : Apart p.host (Relay.setUp (.inl k) (p.loops i) p.host).host :=
    ⟨hundone.made, fun n hn => by rw [Relay.pipeOf, hwriteEnd] at hn; cases hn⟩
  refine ⟨hwriteEnd, hundone.escalation ▸ hp.count, ?_,
    tended_withLoop hp.loops hapart (fun _ _ => rfl) ?_⟩
  · intro t
    show (Relay.setUp (.inl k) (p.loops i) p.host).host.dispositions t ≠ _
    rw [Relay.setUp, hundone.dispositions]
    exact hp.unrelayed t
  · have hwatches : (Relay.setUp (.inl k) (p.loops i) p.host).loop.watches =
        (p.loops i).watches := hundone.watches (hp.loops i).numbers
    exact
      { there := fun x hx => by cases hx
        watches := by
          rw [hwatches]
          exact ((hp.loops i).of_apart hapart).watches
        numbers := by
          rw [hwatches]
          exact fun w hw => Nat.lt_of_lt_of_le ((hp.loops i).numbers w hw) hundone.nextId
        numbered := by
          rw [Numbered, hwatches]
          exact (hp.loops i).numbered }

/-- An attempt that succeeds leaves the relay in use, with nothing pending. -/
theorem setUp_returned (hp : Idle p) {k : κ} {id : Nat}
    (houtcome : (Relay.setUp (.inl k) (p.loops i) p.host).outcome = .returned id) :
    ∃ n, InUse i ⟨k, n, id⟩ true [] []
      (p.withLoop i (Relay.setUp (.inl k) (p.loops i) p.host).loop
        (Relay.setUp (.inl k) (p.loops i) p.host).host) := by
  have he := established_of_returned houtcome
  obtain ⟨hnext, hothers⟩ := of_returned houtcome
  rw [← Relay.setUp] at he hnext hothers
  obtain rfl := he.id
  have hnew : p.host.pipes.pipe? p.host.pipes.create.1 = none :=
    List.getElem?_eq_none_iff.mpr (Nat.le_refl _)
  have hapart : Apart p.host (Relay.setUp (.inl k) (p.loops i) p.host).host := by
    refine ⟨?_, fun n hn => ?_⟩
    · rw [he.pipes]
      exact (show Pipes.Later (fun _ => False) _ _ from .create _ _).made
    · rw [Relay.pipeOf, he.relay] at hn
      rw [← Option.some.inj hn]
      exact .inr hnew
  refine ⟨p.host.pipes.create.1, he.engaged hp.count, congrArg (·.stage) he.relay, ?_,
    tended_withLoop hp.loops hapart ?_ ?_⟩
  · intro t ht
    show (Relay.setUp (.inl k) (p.loops i) p.host).host.dispositions t ≠ _
    rw [hothers t ht]
    exact hp.unrelayed t
  · intro j hj
    simp [hj]
  · have hmem : ∀ w, w ∈ (Relay.setUp (.inl k) (p.loops i) p.host).loop.watches ↔
        w ∈ (p.loops i).watches
          ∨ w = Line.watch ο ⟨k, p.host.pipes.create.1, (p.loops i).nextId⟩ := by
      intro w
      rw [he.watches, List.mem_append, List.mem_singleton]
      rfl
    simp only [true_and, if_true]
    constructor
    case there =>
      rintro x ⟨⟩
      exact (hmem _).mpr (.inr rfl)
    case watches =>
      intro w hw
      rcases (hmem w).mp hw with hw | hw
      · exact .inr ((((hp.loops i).watches w hw).resolve_left (by simp)).of_apart hapart)
      · exact .inl ⟨_, rfl, hw⟩
    case numbers =>
      intro w hw
      rw [hnext]
      rcases (hmem w).mp hw with hw | hw
      · exact Nat.lt_succ_of_lt ((hp.loops i).numbers w hw)
      · rw [hw]
        exact Nat.lt_succ_self _
    case numbered => exact (hp.loops i).numbered.append (hp.loops i).numbers rfl he.watches

/-- A process is idle until an attempt succeeds. -/
theorem act (hp : Idle p) {d : Deed ι κ ο β} (hact : p.act prog d = some q) :
    Idle q ∨ ∃ i x, InUse i x true [] [] q := by
  cases d with
  | setUp i k =>
      obtain ⟨-, rfl⟩ := of_after hact
      by_cases houtcome : ∃ id, (Relay.setUp (.inl k) (p.loops i) p.host).outcome = .returned id
      · obtain ⟨id, houtcome⟩ := houtcome
        obtain ⟨n, hq⟩ := hp.setUp_returned houtcome
        exact .inr ⟨i, _, hq⟩
      · exact .inl (hp.setUp_failed k (not_exists.mp houtcome))
  | raise t =>
      rw [Process.act] at hact
      split at hact
      · next h' hd =>
        obtain rfl := Option.some.inj hact
        obtain rfl := deliver_unrelayed (hp.unrelayed t) hd
        exact .inl hp
      · cases hact
  | removeWatch i id =>
      obtain rfl := Option.some.inj hact
      obtain ⟨hspares, htended⟩ := (hp.loops i).removeWatch id fun x hx => by cases hx
      exact .inl (hp.of_spares hspares
        (tended_withLoop hp.loops hspares.handed.apart (fun _ _ => rfl) htended))
  | watch i asked o =>
      rw [Process.act] at hact
      split at hact
      · obtain rfl := Option.some.inj hact
        exact .inl hp
      · next n h' hcreate =>
        obtain rfl := Option.some.inj hact
        obtain ⟨hspares, hmade, hapart⟩ := spares_createPipe hcreate fun m hm => by
          rw [hp.pipeOf] at hm
          cases hm
        obtain ⟨hspares', htended⟩ :=
          ((hp.loops i).of_apart hspares.handed.apart).addWatch ⟨n, .read⟩ asked o hmade hapart
        have hboth := hspares.trans hspares'
        exact .inl (hp.of_spares hboth
          (tended_withLoop hp.loops hboth.handed.apart (fun _ _ => rfl) htended))
  | other change spares =>
      obtain rfl := Option.some.inj hact
      have hspares := spares p.host
      exact .inl (hp.of_spares hspares fun j => (hp.loops j).of_apart hspares.handed.apart)
  | _ =>
      obtain ⟨q', hact', ⟨notes, hhanded, -⟩, hloops⟩ :=
        (act_rounds prog (fun _ => none) rfl hp.loops fun x hx => by cases hx).resolve_left
          fun h => by rw [hact] at h; cases h.1
      obtain rfl := Option.some.inj (hact.symm.trans hact')
      exact .inl ⟨by rw [hhanded.relay]; exact hp.writeEnd, by rw [hhanded.relay]; exact hp.count,
        by rw [hhanded.dispositions]; exact hp.unrelayed, hloops⟩

end Idle

/-! ## A relay in use -/

namespace InUse

variable {raised : List Signal}

/-- The loop that is attached to the relay watches for it. -/
theorem carries (hp : InUse i x attached raised pending p) {y : Line κ}
    (hy : (if attached ∧ j = i then some x else none) = some y) :
    ∃ pending, Carries y pending p.host := by
  split at hy
  · next hattached =>
    obtain rfl := Option.some.inj hy
    exact ⟨pending, by rw [pipeOf, hp.writeEnd]; rfl, by rw [hp.pipe, hattached.1]⟩
  · cases hy

theorem of_handed (hp : InUse i x attached raised pending p) (hh : Handed notes p.host q.host)
    (hloops : ∀ j, Tended (if attached ∧ j = i then some x else none) (q.loops j) q.host) :
    ∃ left, pending = notes.map Prod.snd ++ left ∧ InUse i x attached raised left q := by
  obtain ⟨left, hpending, hleft⟩ := hh.pipe x.pipe attached pending
    (by rw [pipeOf, hp.writeEnd]; rfl) hp.pipe
  exact ⟨left, hpending,
    { pipe := hleft
      writeEnd := by rw [hh.relay]; exact hp.writeEnd
      claimed := by rw [hh.relay]; exact hp.claimed
      dispositions := by rw [hh.dispositions]; exact hp.dispositions
      counted := by rw [hh.relay]; exact hp.counted
      bounded := hp.bounded
      stage := by rw [hh.relay]; exact hp.stage
      unrelayed := by rw [hh.dispositions]; exact hp.unrelayed
      loops := hloops }⟩

/-- A further attempt is refused and changes nothing. -/
theorem setUp (hp : InUse i x attached raised pending p) (k : κ) (l : MainLoop (κ ⊕ ο)) :
    Relay.setUp (.inl k) l p.host = ⟨.failed claimedFailure, l, p.host⟩ := by
  rw [Relay.setUp, setUpFor, if_pos hp.claimed]

theorem act_setUp (hp : InUse i x attached raised pending p) (j : ι) (k : κ) :
    p.act prog (.setUp j k) = some p := by
  rw [Process.act, hp.setUp]
  simp [Process.after, Process.withLoop]

/-- A signal that the relay is for kills the process if it is the second that asks it to end, or
if nobody reads the pipe; else it is in the pipe behind the others. -/
theorem raise (prog : Program κ ο β) (hp : InUse i x attached raised pending p)
    (ht : t ∈ trapped) :
    ((t ∈ terminating ∧ endings raised = 1 ∨ attached = false)
        ∧ p.act prog (.raise t) = none)
      ∨ (¬(t ∈ terminating ∧ endings raised = 1 ∨ attached = false)
        ∧ ∃ q, p.act prog (.raise t) = some q ∧ q.host.data.notes = p.host.data.notes
          ∧ InUse i x attached (raised ++ [t]) (pending ++ [t]) q) := by
  rw [Process.act]
  rcases hp.toEngaged.deliver ht with ⟨hdies, h', hdeliver, -⟩ | ⟨hlives, c, hdeliver, hengaged⟩
  · rw [hdeliver]
    exact .inl ⟨hdies, rfl⟩
  · rw [hdeliver]
    have hapart : Apart p.host (posted x.pipe pending t c p.host) :=
      ⟨(show Pipes.Later (fun _ => False) _ _ from
        .set hp.pipe fun side => by cases side <;> cases attached <;> simp_all [Pipe.isOpen]).made,
        fun n hn => .inl hn⟩
    exact .inr ⟨hlives, _, rfl, rfl, hengaged, hp.stage, hp.unrelayed,
      fun j => (hp.loops j).of_apart hapart⟩

/-- Nothing comes of a signal that the relay is not for, unless the process dies of it. -/
theorem raise_other (hp : InUse i x attached raised pending p) (ht : t ∉ trapped)
    (hact : p.act prog (.raise t) = some q) : q = p := by
  rw [Process.act] at hact
  split at hact
  · next h' hd =>
    obtain rfl := Option.some.inj hact
    rw [deliver_unrelayed (hp.unrelayed t ht) hd]
  · cases hact

/-- Removing the watch of the relay closes the read end. The relay stays in use. -/
theorem removeWatch_self (hp : InUse i x true raised pending p) :
    (((p.loops i).removeWatch p.host x.number).2.2).data = p.host.data
      ∧ InUse i x false raised pending (p.withLoop i ((p.loops i).removeWatch p.host x.number).2.1
        ((p.loops i).removeWatch p.host x.number).2.2) := by
  have hi := hp.loops i
  simp only [true_and, if_true] at hi
  have hfind : (p.loops i).watches.find? (·.id = x.number) = some (x.watch ο) := by
    have hsome : ((p.loops i).watches.find? (·.id = x.number)).isSome :=
      List.find?_isSome.mpr ⟨_, hi.there x rfl, decide_eq_true (rfl : (x.watch ο).id = _)⟩
    obtain ⟨w, hw⟩ := Option.isSome_iff_exists.mp hsome
    have hid : w.id = (x.watch ο).id := by simpa [Line.watch] using List.find?_some hw
    rw [hw, hi.numbered.eq_of_id (List.mem_of_find?_eq_some hw) (hi.there x rfl) hid]
  rw [MainLoop.removeWatch, hfind]
  have hapart : Apart p.host ((p.host.close (x.watch ο).descriptor).report
      (.watchRemoved x.number)) :=
    ⟨(show Pipes.Later (fun _ => False) _ _ from .close not_false).made, fun n hn => .inl hn⟩
  refine ⟨rfl, { hp.toEngaged with pipe := ?_ }, hp.stage, hp.unrelayed,
    tended_withLoop hp.loops hapart ?_ ?_⟩
  · show (p.host.pipes.close (x.watch ο).descriptor).pipe? x.pipe = _
    rw [Line.watch, Pipes.close_eq hp.pipe, Pipes.pipe?_set_self hp.pipe]
    rfl
  · intro j hj
    simp [hj]
  · simp only [Bool.false_eq_true, false_and, if_false]
    constructor
    case there => rintro y ⟨⟩
    case watches =>
      intro w hw
      refine .inr (((hi.watches w (List.mem_of_mem_filter hw)).resolve_left ?_).of_apart hapart)
      rintro ⟨y, ⟨⟩, rfl⟩
      simpa [Line.watch] using List.of_mem_filter hw
    case numbers => exact fun w hw => hi.numbers w (List.mem_of_mem_filter hw)
    case numbered => exact hi.numbered.sublist (List.filter_sublist.map _)

/-- A change that spares the relay leaves it in use, with the same signals pending. -/
theorem of_spares (hp : InUse i x attached raised pending p) (hs : Spares p.host q.host)
    (hloops : ∀ j, Tended (if attached ∧ j = i then some x else none) (q.loops j) q.host) :
    q.host.data.notes = p.host.data.notes ∧ InUse i x attached raised pending q := by
  obtain ⟨left, hleft, hq⟩ := hp.of_handed hs.handed hloops
  obtain rfl : pending = left := hleft
  exact ⟨hs.noted, hq⟩

/-- Removing another watch leaves the relay attached. -/
theorem removeWatch_ne (hp : InUse i x attached raised pending p) (j : ι) {id : Nat}
    (hne : ¬(attached = true ∧ j = i ∧ id = x.number)) :
    (((p.loops j).removeWatch p.host id).2.2).data.notes = p.host.data.notes
      ∧ InUse i x attached raised pending (p.withLoop j ((p.loops j).removeWatch p.host id).2.1
        ((p.loops j).removeWatch p.host id).2.2) := by
  obtain ⟨hspares, htended⟩ := (hp.loops j).removeWatch id fun y hy hnumber => by
    split at hy
    · next hattached =>
      obtain rfl := Option.some.inj hy
      exact hne ⟨hattached.1, hattached.2, hnumber.symm⟩
    · cases hy
  exact hp.of_spares hspares
    (tended_withLoop hp.loops hspares.handed.apart (fun _ _ => rfl) htended)

/-- Removing any watch takes the loop off the relay, if it is the relay's. -/
theorem removeWatch (hp : InUse i x attached raised pending p) (j : ι) (id : Nat) :
    (((p.loops j).removeWatch p.host id).2.2).data.notes = p.host.data.notes
      ∧ InUse i x (attached && !decide (j = i ∧ id = x.number)) raised pending
        (p.withLoop j ((p.loops j).removeWatch p.host id).2.1
          ((p.loops j).removeWatch p.host id).2.2) := by
  by_cases hself : attached = true ∧ j = i ∧ id = x.number
  · obtain ⟨rfl, rfl, rfl⟩ := hself
    rw [decide_eq_true ⟨rfl, rfl⟩]
    exact ⟨congrArg Noted.notes hp.removeWatch_self.1, hp.removeWatch_self.2⟩
  · have hstays : (attached && !decide (j = i ∧ id = x.number)) = attached := by
      cases attached with
      | false => rfl
      | true => rw [decide_eq_false fun h => hself ⟨rfl, h⟩]; rfl
    rw [hstays]
    exact hp.removeWatch_ne j hself

/-- Rounds of a loop hand over signals only if it is attached, and only a stranger can bring the
process down in them. -/
theorem rounds (prog : Program κ ο β) (hp : InUse i x attached raised pending p)
    {d : Deed ι κ ο β} (hd : d.rounds? = some j) :
    (p.act prog d = none ∧ StrangerAborts prog (p.loops j))
      ∨ ∃ q, p.act prog d = some q
        ∧ ∃ signals left, q.host.data.notes = p.host.data.notes ++ signals.map (x.handler, ·)
          ∧ (signals ≠ [] → attached = true ∧ j = i)
          ∧ pending = signals ++ left ∧ InUse i x attached raised left q := by
  refine (act_rounds prog (fun j => if attached ∧ j = i then some x else none) hd hp.loops
    fun y hy => hp.carries hy).imp_right ?_
  rintro ⟨q, hact, ⟨notes, hhanded, hnotes⟩, hloops⟩
  obtain ⟨left, hpending, hq⟩ := hp.of_handed hhanded hloops
  have hline : ∀ note ∈ notes, (attached = true ∧ j = i) ∧ note = (x.handler, note.2) := by
    intro note hnote
    obtain ⟨y, hy, hhandler⟩ := hnotes note hnote
    split at hy
    · next hattached =>
      obtain rfl := Option.some.inj hy
      exact ⟨hattached, Prod.ext hhandler.symm rfl⟩
    · cases hy
  refine ⟨q, hact, notes.map Prod.snd, left, ?_, ?_, hpending, hq⟩
  · rw [hhanded.noted, List.map_map]
    congr 1
    exact (List.map_id notes).symm.trans
      (List.map_congr_left fun note hnote => (hline note hnote).2)
  · intro hne
    obtain ⟨note, hnote⟩ := List.exists_mem_of_ne_nil notes (fun h => hne (by rw [h]; rfl))
    exact (hline note hnote).1

/-- What a deed may do to a relay in use: signals are handed to its handler only, in rounds of the
loop that is attached to it, and the others stay in the pipe. -/
def Goes (i : ι) (x : Line κ) (attached : Bool) (raised pending : List Signal)
    (p : Process ι κ ο β) (d : Deed ι κ ο β) (q : Process ι κ ο β) : Prop :=
  ∃ signals left, q.host.data.notes = p.host.data.notes ++ signals.map (x.handler, ·)
    ∧ (signals ≠ [] → attached = true ∧ d.rounds? = some i)
    ∧ pending ++ d.raises = signals ++ left
    ∧ InUse i x (attached && !d.removes i x.number) (raised ++ d.raises) left q

theorem goes_of_kept {d : Deed ι κ ο β}
    (hkept : q.host.data.notes = p.host.data.notes ∧ InUse i x attached raised pending q)
    (hraises : d.raises = []) (hremoves : d.removes i x.number = false) :
    Goes i x attached raised pending p d q := by
  obtain ⟨hnotes, hq⟩ := hkept
  refine ⟨[], pending, by simpa using hnotes, by simp, by simp [hraises], ?_⟩
  simpa [hremoves, hraises] using hq

theorem goes_of_rounds (hp : InUse i x attached raised pending p) {d : Deed ι κ ο β}
    (hact : p.act prog d = some q) (hd : d.rounds? = some j) (hraises : d.raises = [])
    (hremoves : d.removes i x.number = false) : Goes i x attached raised pending p d q := by
  obtain ⟨q', hact', signals, left, hnotes, hsignals, hpending, hq⟩ :=
    (hp.rounds prog hd).resolve_left fun h => by rw [hact] at h; cases h.1
  obtain rfl := Option.some.inj (hact.symm.trans hact')
  refine ⟨signals, left, hnotes, fun hne => ?_, by rw [hraises, List.append_nil, hpending], ?_⟩
  · obtain ⟨hattached, rfl⟩ := hsignals hne
    exact ⟨hattached, hd⟩
  · simpa [hremoves, hraises] using hq

theorem act (hp : InUse i x attached raised pending p) {d : Deed ι κ ο β}
    (hact : p.act prog d = some q) : Goes i x attached raised pending p d q := by
  cases d with
  | setUp j k =>
      obtain rfl := Option.some.inj ((hp.act_setUp j k).symm.trans hact)
      exact goes_of_kept ⟨rfl, hp⟩ rfl rfl
  | raise t =>
      by_cases ht : t ∈ trapped
      · have hraises : (Deed.raise t : Deed ι κ ο β).raises = [t] := if_pos ht
        obtain ⟨-, q', hact', hnotes, hq⟩ :=
          (hp.raise prog ht).resolve_left fun h => by rw [hact] at h; cases h.2
        obtain rfl := Option.some.inj (hact.symm.trans hact')
        refine ⟨[], _, by simpa using hnotes, by simp, by rw [hraises]; rfl, ?_⟩
        simpa [hraises, Deed.removes] using hq
      · obtain rfl := hp.raise_other ht hact
        exact goes_of_kept ⟨rfl, hp⟩ (if_neg ht) rfl
  | removeWatch j id =>
      obtain rfl : p.withLoop j ((p.loops j).removeWatch p.host id).2.1
        ((p.loops j).removeWatch p.host id).2.2 = q := Option.some.inj hact
      obtain ⟨hnotes, hq⟩ := hp.removeWatch j id
      refine ⟨[], pending, hnotes.trans (List.append_nil _).symm, by simp, List.append_nil pending,
        ?_⟩
      rw [show (Deed.removeWatch j id : Deed ι κ ο β).raises = [] from rfl, List.append_nil raised]
      exact hq
  | watch j asked o =>
      rw [Process.act] at hact
      split at hact
      · obtain rfl := Option.some.inj hact
        exact goes_of_kept ⟨rfl, hp⟩ rfl rfl
      · next n h' hcreate =>
        obtain rfl := Option.some.inj hact
        obtain ⟨hspares, hmade, hapart⟩ := spares_createPipe hcreate fun m hm => by
          rw [pipeOf, hp.writeEnd] at hm
          obtain rfl := Option.some.inj hm
          exact ⟨_, hp.pipe⟩
        obtain ⟨hspares', htended⟩ :=
          ((hp.loops j).of_apart hspares.handed.apart).addWatch ⟨n, .read⟩ asked o hmade hapart
        have hboth := hspares.trans hspares'
        exact goes_of_kept (hp.of_spares hboth
          (tended_withLoop hp.loops hboth.handed.apart (fun _ _ => rfl) htended)) rfl rfl
  | other change spares =>
      obtain rfl := Option.some.inj hact
      have hspares := spares p.host
      exact goes_of_kept
        (hp.of_spares hspares fun j => (hp.loops j).of_apart hspares.handed.apart) rfl rfl
  | iterate j timed => exact hp.goes_of_rounds hact rfl rfl rfl
  | begin j limit => exact hp.goes_of_rounds hact rfl rfl rfl
  | goOn j limit => exact hp.goes_of_rounds hact rfl rfl rfl

/-- What any deeds do to a relay in use. -/
theorem acts (hp : InUse i x attached raised pending p) {deeds : List (Deed ι κ ο β)}
    (hacts : p.acts prog deeds = some q) :
    ∃ signals left, q.host.data.notes = p.host.data.notes ++ signals.map (x.handler, ·)
      ∧ pending ++ deeds.flatMap Deed.raises = signals ++ left
      ∧ InUse i x (attached && !deeds.any (·.removes i x.number))
        (raised ++ deeds.flatMap Deed.raises) left q := by
  induction deeds generalizing p attached raised pending with
  | nil =>
      obtain rfl := Option.some.inj hacts
      exact ⟨[], pending, by simp, by simp, by simpa using hp⟩
  | cons d deeds ih =>
      obtain ⟨next, hact, hacts⟩ := Option.bind_eq_some_iff.mp hacts
      obtain ⟨signals, left, hnotes, -, hpending, hnext⟩ := hp.act hact
      obtain ⟨more, left', hnotes', hpending', hq⟩ := ih hnext hacts
      refine ⟨signals ++ more, left', ?_, ?_, by
        simpa [Bool.and_assoc, List.flatMap_cons, List.append_assoc] using hq⟩
      · rw [hnotes', hnotes, List.map_append, List.append_assoc]
      · rw [List.flatMap_cons, ← List.append_assoc, hpending, List.append_assoc, hpending',
          List.append_assoc]

/-- The loop of the relay has its watch as long as it is attached. -/
theorem watched_iff (hp : InUse i x attached raised pending p) :
    (∃ w ∈ (p.loops i).watches, w.id = x.number ∧ w.callback = .inl x.handler) ↔
      attached = true := by
  have hi := hp.loops i
  constructor
  · rintro ⟨w, hw, -, hcallback⟩
    rcases hi.watches w hw with ⟨y, hy, -⟩ | hstranger
    · split at hy
      · next hattached => exact hattached.1
      · cases hy
    · obtain ⟨o, ho⟩ := hstranger.callback
      rw [ho] at hcallback
      cases hcallback
  · rintro rfl
    exact ⟨_, hi.there x (by simp), rfl, rfl⟩

theorem pending_eq (hp : InUse i x attached raised pending p) : p.pending = pending := by
  rw [Process.pending, pipeOf, hp.writeEnd]
  show signalsOf ((p.host.pipes.pipe? x.pipe).elim [] (·.buffered)) = _
  rw [hp.pipe]
  exact signalsOf_wire pending

end InUse

/-! ## Whole lives -/

/-- Whatever happens in a process, the relay is in use or nothing belongs to it. -/
theorem Idle.acts (hp : Idle p) {deeds : List (Deed ι κ ο β)}
    (hacts : p.acts prog deeds = some q) :
    Idle q ∨ ∃ i x attached raised pending, InUse i x attached raised pending q := by
  induction deeds generalizing p with
  | nil =>
      obtain rfl := Option.some.inj hacts
      exact .inl hp
  | cons d deeds ih =>
      obtain ⟨next, hact, hacts⟩ := Option.bind_eq_some_iff.mp hacts
      rcases hp.act hact with hnext | ⟨i, x, hnext⟩
      · exact ih hnext hacts
      · obtain ⟨signals, left, -, -, hq⟩ := hnext.acts hacts
        exact .inr ⟨i, x, _, _, left, hq⟩

/-- From the first attempt on that succeeds the relay is in use, with the signals pending that
were raised and are not yet handed over. -/
theorem inUse_of_acts (hfresh : p.Fresh) {before : List (Deed ι κ ο β)} {p₁ : Process ι κ ο β}
    (hbefore : p.acts prog before = some p₁) {k : κ} {id : Nat}
    (hsetUp : (setUp (.inl k) (p₁.loops i) p₁.host).outcome = .returned id)
    {after : List (Deed ι κ ο β)} (hafter : p₁.acts prog (.setUp i k :: after) = some q) :
    ∃ n signals, q.host.data.notes = p₁.host.data.notes ++ signals.map (k, ·)
      ∧ after.flatMap Deed.raises = signals ++ q.pending
      ∧ InUse i ⟨k, n, id⟩ (!after.any (·.removes i id)) (after.flatMap Deed.raises) q.pending
        q := by
  have hidle : Idle p₁ := by
    refine (hfresh.idle.acts hbefore).resolve_right ?_
    rintro ⟨j, x, attached, raised, pending, hp₁⟩
    rw [hp₁.setUp] at hsetUp
    cases hsetUp
  obtain ⟨n, hinUse⟩ := hidle.setUp_returned hsetUp
  obtain ⟨next, hact, hafter⟩ := Option.bind_eq_some_iff.mp hafter
  obtain ⟨-, rfl⟩ := of_after hact
  obtain ⟨signals, left, hnotes, hraised, hq⟩ := hinUse.acts hafter
  rw [hq.pending_eq]
  refine ⟨n, signals, ?_, hraised, hq⟩
  rw [hnotes]
  exact congrArg (·.notes ++ _) (established_of_returned hsetUp).data

/-- The relay of a process is set up once. From the first attempt on that succeeds, after any
that failed, it runs whatever happens; every other attempt is refused, and changes neither loops
nor host. Signals that are taken from the pipe go to the handler it was set up for, in rounds of
the loop it was set up on, and all that were raised are handed over in their order, as long as
the watch is there; it goes only by being removed. -/
theorem set_up_once (hfresh : p.Fresh) {before : List (Deed ι κ ο β)} {p₁ : Process ι κ ο β}
    (hbefore : p.acts prog before = some p₁) {k : κ} {id : Nat}
    (hsetUp : (setUp (.inl k) (p₁.loops i) p₁.host).outcome = .returned id)
    {after : List (Deed ι κ ο β)} (hafter : p₁.acts prog (.setUp i k :: after) = some q) :
    q.host.relay.stage = .running
      ∧ (∀ j k', (setUp (.inl k') (q.loops j) q.host).outcome = .failed claimedFailure
        ∧ q.act prog (.setUp j k') = some q)
      ∧ (∃ signals, q.host.data.notes = p₁.host.data.notes ++ signals.map (k, ·)
        ∧ after.flatMap Deed.raises = signals ++ q.pending)
      ∧ ((∃ w ∈ (q.loops i).watches, w.id = id ∧ w.callback = .inl k) ↔
        after.any (·.removes i id) = false)
      ∧ ∀ d q', q.act prog d = some q' →
          ∃ signals, q'.host.data.notes = q.host.data.notes ++ signals.map (k, ·)
            ∧ q.pending ++ d.raises = signals ++ q'.pending
            ∧ (signals ≠ [] → after.any (·.removes i id) = false ∧ d.rounds? = some i) := by
  obtain ⟨n, signals, hnotes, hraised, hq⟩ := inUse_of_acts hfresh hbefore hsetUp hafter
  refine ⟨hq.stage, fun j k' => ⟨by rw [hq.setUp], hq.act_setUp j k'⟩,
    ⟨signals, hnotes, hraised⟩, ?_, ?_⟩
  · rw [hq.watched_iff, Bool.not_eq_true']
  · intro d q' hd
    obtain ⟨signals, left', hnotes', hsignals, hpending, hq'⟩ := hq.act hd
    refine ⟨signals, hnotes', by rw [hq'.pending_eq, hpending], fun hne => ?_⟩
    exact ⟨(Bool.not_eq_true' _).mp (hsignals hne).1, (hsignals hne).2⟩

section Example

/-- A program with two handlers that do nothing, and no strangers. -/
def quietProgram : Program Bool Empty Unit where
  handlers := fun _ _ _ => return (false, ())
  strangers := fun o => o.elim
  spares := fun o => o.elim

/-- Some signals begin to refuse, and all others no longer do. -/
def refusing (signals : List Signal) : Deed (Fin 2) Bool Empty Unit :=
  .other (fun h => { h with refused := signals }) fun h =>
    { Spares.refl h with }

def started : Process (Fin 2) Bool Empty Unit :=
  ⟨fun _ => {}, { data := ⟨(), []⟩ }⟩

/-- A first attempt fails, as a signal refuses. -/
def refusedOnce : Process (Fin 2) Bool Empty Unit :=
  (started.acts quietProgram [refusing [.hangup], .setUp 0 true, refusing []]).get
    (by decide +kernel)

/-- After the relay was set up, the other loop tries as well, a signal is handled, and the watch
of the relay is removed. -/
def abandoned : Process (Fin 2) Bool Empty Unit :=
  (refusedOnce.acts quietProgram
    [.setUp 0 true, .setUp 1 false, .raise .hangup, .iterate 0 true, .removeWatch 0 2]).get
    (by decide +kernel)

/-- The second attempt succeeded, and the signal went to its handler. The relay runs, though
nothing is watched any more. -/
theorem set_up_once_abandoned :
    (setUp (.inl true) (refusedOnce.loops 0) refusedOnce.host).outcome = .returned 2
      ∧ abandoned.host.data.notes = [(true, .hangup)]
      ∧ (abandoned.loops 0).watches.length = 0
      ∧ abandoned.host.relay.stage = .running := by
  have hfresh : started.Fresh :=
    ⟨rfl, fun t => by simp only [started, Disposition.initial]; split <;> simp, fun _ => rfl⟩
  have hsetUp : (setUp (.inl true) (refusedOnce.loops 0) refusedOnce.host).outcome =
      .returned 2 := by decide +kernel
  refine ⟨hsetUp, by decide +kernel, by decide +kernel, ?_⟩
  exact (set_up_once hfresh (Option.some_get _).symm hsetUp (Option.some_get _).symm).1

end Example

end GadgetModes.Relay
