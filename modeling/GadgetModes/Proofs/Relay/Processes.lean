import GadgetModes.Proofs.MainLoop.Neighbours
import GadgetModes.Proofs.Relay.Wiring

/-!
# Processes with any loops

A process has any loops, and any handlers that its relay may be set up with. Of the signals
that handlers are given notes are taken. Loops may watch other pipes as well: whatever is done
for these watches, and whatever else happens, leaves the relay alone (`Spares`).

`Handed` says of two hosts that from one to the other nothing happened to the relay but that
signals left its pipe, and that they were given to the handlers that the notes name. A loop is
tended when its watches are that of the relay, where it has one, and those of strangers
(`Tended`). Rounds and runs of a tended loop hand signals over to no one but the handler of the
relay, and the loop stays tended.
-/

namespace GadgetModes

open GadgetModes.Log

namespace Relay

open MainLoop

/-! ## Hosts -/

/-- The data of the handlers, with notes of which of them was given which signal. -/
structure Noted (κ β : Type) where
  own : β
  notes : List (κ × Signal) := []

/-- A handler that takes a note of every signal. -/
def noting {κ β : Type} (k : κ) (handler : Handler β) : Handler (Noted κ β) := fun s data => do
  let (quits, own) ← handler s data.own
  return (quits, ⟨own, data.notes ++ [(k, s)]⟩)

/-- The number of the pipe that the relay writes to. -/
def pipeOf {α : Type} (h : Host α) : Option Nat :=
  h.relay.writeEnd.map (·.pipe)

variable {κ ο β : Type} {h h' h'' : Host (Noted κ β)} {notes more : List (κ × Signal)}
  {attached : Bool} {pending : List Signal}

/-- From one host to another nothing happened to the relay. -/
structure Spares (h h' : Host (Noted κ β)) : Prop where
  relay : h'.relay = h.relay
  dispositions : h'.dispositions = h.dispositions
  noted : h'.data.notes = h.data.notes
  pipe : ∀ n, pipeOf h = some n → h'.pipes.pipe? n = h.pipes.pipe? n
  made : ∀ n p, h.pipes.pipe? n = some p → ∃ p', h'.pipes.pipe? n = some p'

theorem Spares.refl (h : Host (Noted κ β)) : Spares h h :=
  ⟨rfl, rfl, rfl, fun _ _ => rfl, fun _ p hp => ⟨p, hp⟩⟩

/-- From one host to another nothing happened to the relay, but that signals left its pipe and
were noted. -/
structure Handed (notes : List (κ × Signal)) (h h' : Host (Noted κ β)) : Prop where
  relay : h'.relay = h.relay
  dispositions : h'.dispositions = h.dispositions
  noted : h'.data.notes = h.data.notes ++ notes
  pipe : ∀ n attached pending, pipeOf h = some n →
    h.pipes.pipe? n = some ⟨wire pending, attached, true⟩ →
    ∃ left, pending = notes.map Prod.snd ++ left
      ∧ h'.pipes.pipe? n = some ⟨wire left, attached, true⟩
  made : ∀ n p, h.pipes.pipe? n = some p → ∃ p', h'.pipes.pipe? n = some p'

theorem Spares.handed (hs : Spares h h') : Handed [] h h' where
  relay := hs.relay
  dispositions := hs.dispositions
  noted := by rw [hs.noted, List.append_nil]
  pipe := fun n _ pending hn hp => ⟨pending, rfl, (hs.pipe n hn).trans hp⟩
  made := hs.made

theorem Handed.trans (hh : Handed notes h h') (hh' : Handed more h' h'') :
    Handed (notes ++ more) h h'' where
  relay := hh'.relay.trans hh.relay
  dispositions := hh'.dispositions.trans hh.dispositions
  noted := by rw [hh'.noted, hh.noted, List.append_assoc]
  pipe := by
    intro n attached pending hn hp
    obtain ⟨left, rfl, hleft⟩ := hh.pipe n attached pending hn hp
    have hn' : pipeOf h' = some n := by rw [pipeOf, hh.relay]; exact hn
    obtain ⟨left', rfl, hleft'⟩ := hh'.pipe n attached left hn' hleft
    exact ⟨left', by simp, hleft'⟩
  made := by
    intro n p hp
    obtain ⟨p', hp'⟩ := hh.made n p hp
    exact hh'.made n p' hp'

/-- Nothing happens to the relay when an end of another pipe is closed. -/
theorem spares_close {d : Descriptor} (hd : pipeOf h ≠ some d.pipe) : Spares h (h.close d) where
  relay := rfl
  dispositions := rfl
  noted := rfl
  pipe := by
    intro n hn
    have hne : n ≠ d.pipe := fun he => hd (by rw [← he, hn])
    show (h.pipes.close d).pipe? n = _
    rw [Pipes.close]
    split
    · exact Pipes.pipe?_set_ne hne _
    · rfl
  made := (show Pipes.Later (fun _ => False) _ _ from .close not_false).made

theorem spares_report (h : Host (Noted κ β)) (e : Event) : Spares h (h.report e) :=
  ⟨rfl, rfl, rfl, fun _ _ => rfl, fun _ p hp => ⟨p, hp⟩⟩

theorem Spares.trans (hs : Spares h h') (hs' : Spares h' h'') : Spares h h'' where
  relay := hs'.relay.trans hs.relay
  dispositions := hs'.dispositions.trans hs.dispositions
  noted := hs'.noted.trans hs.noted
  pipe := by
    intro n hn
    have hn' : pipeOf h' = some n := by rw [pipeOf, hs.relay]; exact hn
    exact (hs'.pipe n hn').trans (hs.pipe n hn)
  made := by
    intro n p hp
    obtain ⟨p', hp'⟩ := hs.made n p hp
    exact hs'.made n p' hp'

/-! ## Callbacks -/

/-- What the callbacks of a process do: the handlers for signals, and strangers that leave the
relay alone. -/
structure Program (κ ο β : Type) where
  handlers : κ → Handler β
  strangers : Callbacks ο (Noted κ β)
  spares : ∀ o d revents h action quits h', pipeOf h ≠ some d.pipe →
    strangers o d revents h = .done action quits h' → Spares h h'

def Program.act (prog : Program κ ο β) : Callbacks (κ ⊕ ο) (Noted κ β)
  | .inl k => dispatch (noting k (prog.handlers k))
  | .inr o => prog.strangers o

/-- A relay that was set up: for which handler, and the numbers of its pipe and its watch. -/
structure Line (κ : Type) where
  handler : κ
  pipe : Nat
  number : Nat

def Line.watch (ο : Type) {κ : Type} (x : Line κ) : Watch (κ ⊕ ο) :=
  ⟨x.number, ⟨x.pipe, .read⟩, conditions, .inl x.handler⟩

/-- The relay writes to a pipe that is read, with signals that are pending. -/
structure Carries (x : Line κ) (pending : List Signal) (h : Host (Noted κ β)) : Prop where
  pipeOf : pipeOf h = some x.pipe
  pipe : h.pipes.pipe? x.pipe = some ⟨wire pending, true, true⟩

theorem Carries.handed {x : Line κ} (hc : Carries x pending h) (hh : Handed notes h h') :
    ∃ left, pending = notes.map Prod.snd ++ left ∧ Carries x left h' := by
  obtain ⟨left, hpending, hleft⟩ := hh.pipe _ _ _ hc.pipeOf hc.pipe
  exact ⟨left, hpending, by rw [Relay.pipeOf, hh.relay]; exact hc.pipeOf, hleft⟩

theorem Carries.of_spares {x : Line κ} (hc : Carries x pending h) (hs : Spares h h') :
    Carries x pending h' where
  pipeOf := by rw [Relay.pipeOf, hs.relay]; exact hc.pipeOf
  pipe := by rw [hs.pipe _ hc.pipeOf]; exact hc.pipe

theorem Carries.poll {x : Line κ} (hc : Carries x pending h) :
    h.pipes.poll (x.watch ο).descriptor (x.watch ο).conditions =
      { readable := !(wire pending).isEmpty } := by
  rw [Line.watch, Pipes.poll_eq hc.pipe (by rfl)]
  simp [Pipe.polled, Pipe.conditions, conditions, PollFlags.inter]

/-- What becomes of a wake-up of the relay: the oldest signal goes to the handler. -/
theorem Carries.dispatch {x : Line κ} {s : Signal} {left : List Signal}
    (hc : Carries x (s :: left) h) (handler : Handler β) :
    ∃ quits h', dispatch (noting x.handler handler) ⟨x.pipe, .read⟩ { readable := true } h =
        .done .goOn quits h'
      ∧ Handed [(x.handler, s)] h h' := by
  refine ⟨_, _, dispatch_wire hc.pipe, rfl, rfl, rfl, ?_, ?_⟩
  · intro n attached pending hn hp
    obtain rfl := Option.some.inj (hn.symm.trans hc.pipeOf)
    rw [hc.pipe] at hp
    obtain ⟨hwire, rfl, -⟩ := Pipe.mk.inj (Option.some.inj hp)
    refine ⟨left, ?_, Pipes.pipe?_set_self hc.pipe _⟩
    rw [← signalsOf_wire pending, ← hwire, signalsOf_wire]
    rfl
  · exact (show Pipes.Later (fun _ => False) _ _ from .set hc.pipe fun side => by
      cases side <;> rfl).made

/-! ## Tended loops -/

/-- A watch that has nothing to do with the relay. -/
structure Stranger (h : Host (Noted κ β)) (w : Watch (κ ⊕ ο)) : Prop where
  callback : ∃ o, w.callback = .inr o
  made : ∃ p, h.pipes.pipe? w.descriptor.pipe = some p
  apart : pipeOf h ≠ some w.descriptor.pipe

/-- All pipes stay, and the relay gets no pipe but a new one. -/
structure Apart (h h' : Host (Noted κ β)) : Prop where
  made : ∀ n p, h.pipes.pipe? n = some p → ∃ p', h'.pipes.pipe? n = some p'
  pipeOf : ∀ n, Relay.pipeOf h' = some n → Relay.pipeOf h = some n ∨ h.pipes.pipe? n = none

theorem Handed.apart (hh : Handed notes h h') : Apart h h' where
  made := hh.made
  pipeOf := fun n hn => .inl (by rwa [Relay.pipeOf, ← hh.relay])

theorem Stranger.of_apart {w : Watch (κ ⊕ ο)} (hw : Stranger h w) (ha : Apart h h') :
    Stranger h' w where
  callback := hw.callback
  made := by
    obtain ⟨p, hp⟩ := hw.made
    exact ha.made _ p hp
  apart := by
    intro hpipe
    obtain ⟨p, hp⟩ := hw.made
    rcases ha.pipeOf _ hpipe with hold | hnew
    · exact hw.apart hold
    · rw [hp] at hnew
      cases hnew

/-- Nothing happens to a relay that writes to some pipe, or to none. -/
def Unconcerning (pipe? : Option Nat) (h h' : Host (Noted κ β)) : Prop :=
  pipeOf h = pipe? → Spares h h'

instance {pipe? : Option Nat} :
    IsPreorder (Host (Noted κ β)) (Unconcerning (κ := κ) (β := β) pipe?) where
  refl h _ := .refl h
  trans _ _ _ hr hr' hpipe :=
    (hr hpipe).trans (hr' (by rw [pipeOf, (hr hpipe).relay]; exact hpipe))

theorem Stranger.aloof {w : Watch (κ ⊕ ο)} (hw : Stranger h w) (prog : Program κ ο β) :
    Aloof prog.act (Unconcerning (pipeOf h)) w where
  called := by
    intro revents g action quits g' hcall hpipe
    obtain ⟨o, ho⟩ := hw.callback
    rw [ho] at hcall
    exact prog.spares _ _ _ _ _ _ _ (by rw [hpipe]; exact hw.apart) hcall
  removed := fun g hpipe =>
    (spares_close (by rw [hpipe]; exact hw.apart)).trans (spares_report _ _)

/-- A loop that watches for the relay, if there is a line that it is on, and for strangers. -/
structure Tended (line? : Option (Line κ)) (l : MainLoop (κ ⊕ ο)) (h : Host (Noted κ β)) :
    Prop where
  there : ∀ x, line? = some x → x.watch ο ∈ l.watches
  watches : ∀ w ∈ l.watches, (∃ x, line? = some x ∧ w = x.watch ο) ∨ Stranger h w
  numbers : ∀ w ∈ l.watches, w.id < l.nextId
  numbered : l.Numbered

/-- Signals left the pipe of the relay, and were given to the handler of the line that there is. -/
def HandedOn (line? : Option (Line κ)) (h h' : Host (Noted κ β)) : Prop :=
  ∃ notes, Handed notes h h' ∧ ∀ note ∈ notes, ∃ x, line? = some x ∧ x.handler = note.1

namespace HandedOn

variable {line? : Option (Line κ)}

theorem of_spares (hs : Spares h h') : HandedOn line? h h' :=
  ⟨[], hs.handed, by simp⟩

theorem of_handed {x : Line κ} {signals : List Signal}
    (hh : Handed (signals.map (x.handler, ·)) h h') : HandedOn (some x) h h' := by
  refine ⟨_, hh, fun note hnote => ⟨x, rfl, ?_⟩⟩
  obtain ⟨s, -, rfl⟩ := List.mem_map.mp hnote
  rfl

theorem trans (hh : HandedOn line? h h') (hh' : HandedOn line? h' h'') : HandedOn line? h h'' := by
  obtain ⟨notes, hhanded, hnotes⟩ := hh
  obtain ⟨more, hmore, hmores⟩ := hh'
  refine ⟨notes ++ more, hhanded.trans hmore, fun note hnote => ?_⟩
  exact (List.mem_append.mp hnote).elim (hnotes note) (hmores note)

theorem apart (hh : HandedOn line? h h') : Apart h h' := by
  obtain ⟨notes, hhanded, -⟩ := hh
  exact hhanded.apart

theorem carries (hh : HandedOn line? h h')
    (hcarries : ∀ x, line? = some x → ∃ pending, Carries x pending h) :
    ∀ x, line? = some x → ∃ pending, Carries x pending h' := by
  obtain ⟨notes, hhanded, -⟩ := hh
  intro x hx
  obtain ⟨pending, hc⟩ := hcarries x hx
  obtain ⟨left, -, hleft⟩ := hc.handed hhanded
  exact ⟨left, hleft⟩

end HandedOn

/-- The callback of a stranger that a loop watches for can bring the process down. -/
def StrangerAborts (prog : Program κ ο β) (l : MainLoop (κ ⊕ ο)) : Prop :=
  ∃ w ∈ l.watches, (∃ o, w.callback = .inr o) ∧ Aborts prog.act w

/-- The signals that a round takes from the pipe of its line: the oldest, unless the poll
fails. -/
def due (l : MainLoop (κ ⊕ ο)) (h : Host (Noted κ β)) (pending : List Signal) : List Signal :=
  if h.fileLimit < l.watches.length then [] else pending.take 1

/-- The callback of the relay that is called in a round takes the signal from its pipe that is
due. -/
theorem Carries.act {x : Line κ} {l : MainLoop (κ ⊕ ο)} (hc : Carries x pending h)
    (hreported : ({ readable := !(wire pending).isEmpty } : PollFlags) ≠ .none)
    (hlimit : l.watches.length ≤ h.fileLimit) (hs : Spares h h') (prog : Program κ ο β) :
    ∃ quits h'', prog.act (x.watch ο).callback (x.watch ο).descriptor
          { readable := !(wire pending).isEmpty } h' = .done .goOn quits h''
      ∧ Handed ((due l h pending).map (x.handler, ·)) h h'' := by
  cases pending with
  | nil => exact absurd rfl hreported
  | cons s left =>
      obtain ⟨quits, h'', hcall, hhanded⟩ :=
        (hc.of_spares hs).dispatch (prog.handlers x.handler)
      rw [due, if_neg (Nat.not_lt.mpr hlimit)]
      exact ⟨quits, h'', hcall, hs.handed.trans hhanded⟩

namespace Tended

variable {line? : Option (Line κ)} {x : Line κ} {l l' : MainLoop (κ ⊕ ο)}

theorem of_apart (ht : Tended line? l h) (ha : Apart h h') : Tended line? l h' :=
  { ht with watches := fun w hw => (ht.watches w hw).imp_right (·.of_apart ha) }

/-- Of a loop only the watches and the next number count. -/
theorem of_eq (ht : Tended line? l h) (hwatches : l'.watches = l.watches)
    (hnext : l'.nextId = l.nextId) : Tended line? l' h where
  there := by rw [hwatches]; exact ht.there
  watches := by rw [hwatches]; exact ht.watches
  numbers := by rw [hwatches, hnext]; exact ht.numbers
  numbered := by rw [Numbered, hwatches]; exact ht.numbered

/-- Other watches than that of the relay may go. -/
theorem of_sublist (ht : Tended line? l h) (hwatches : l'.watches.Sublist l.watches)
    (hnext : l'.nextId = l.nextId) (hthere : ∀ x, line? = some x → x.watch ο ∈ l'.watches) :
    Tended line? l' h where
  there := hthere
  watches := fun w hw => ht.watches w (hwatches.subset hw)
  numbers := by rw [hnext]; exact fun w hw => ht.numbers w (hwatches.subset hw)
  numbered := ht.numbered.sublist (hwatches.map _)

theorem stranger_of_ne (ht : Tended (some x) l h) {w : Watch (κ ⊕ ο)} (hw : w ∈ l.watches)
    (hne : w ≠ x.watch ο) : Stranger h w := by
  refine (ht.watches w hw).resolve_left ?_
  rintro ⟨y, hy, rfl⟩
  obtain rfl := Option.some.inj hy
  exact hne rfl

/-- Taking a watch off the loop that is not that of the relay. -/
theorem removeWatch (ht : Tended line? l h) (id : Nat)
    (hid : ∀ x, line? = some x → x.number ≠ id) :
    Spares h (l.removeWatch h id).2.2
      ∧ Tended line? (l.removeWatch h id).2.1 (l.removeWatch h id).2.2 := by
  rw [MainLoop.removeWatch]
  cases hfind : l.watches.find? (·.id = id) with
  | none => exact ⟨.refl h, ht⟩
  | some w =>
      have hwid : w.id = id := by simpa using List.find?_some hfind
      have hstranger : Stranger h w := by
        refine (ht.watches w (List.mem_of_find?_eq_some hfind)).resolve_left ?_
        rintro ⟨x, hx, rfl⟩
        exact hid x hx hwid
      have hspares := (spares_close hstranger.apart).trans (spares_report _ (.watchRemoved id))
      refine ⟨hspares, of_apart ?_ hspares.handed.apart⟩
      exact ht.of_sublist List.filter_sublist rfl fun x hx =>
        List.mem_filter.mpr ⟨ht.there x hx, decide_eq_true (hid x hx)⟩

/-- A watch of a stranger is added. -/
theorem addWatch (ht : Tended line? l h) (d : Descriptor) (asked : PollFlags) (o : ο)
    (hmade : ∃ p, h.pipes.pipe? d.pipe = some p) (hapart : pipeOf h ≠ some d.pipe) :
    Spares h (l.addWatch h d asked (.inr o)).2.2
      ∧ Tended line? (l.addWatch h d asked (.inr o)).2.1
        (l.addWatch h d asked (.inr o)).2.2 := by
  have hspares := spares_report h (.watchAdded l.nextId asked)
  refine ⟨hspares, of_apart ?_ hspares.handed.apart⟩
  exact
    { there := fun x hx => List.mem_append_left _ (ht.there x hx)
      watches := by
        intro w hw
        rcases List.mem_append.mp hw with hw | hw
        · exact ht.watches w hw
        · rw [List.mem_singleton.mp hw]
          exact .inr ⟨⟨o, rfl⟩, hmade, hapart⟩
      numbers := by
        intro w hw
        rcases List.mem_append.mp hw with hw | hw
        · exact Nat.lt_succ_of_lt (ht.numbers w hw)
        · rw [List.mem_singleton.mp hw]
          exact Nat.lt_succ_self _
      numbered := ht.numbered.append ht.numbers rfl rfl }

/-! ## Rounds -/

/-- A round of strangers only: one of them brings the process down, or nothing happens to the
relay. -/
theorem iterate_none (ht : Tended none l h) (prog : Program κ ο β) (timed : Bool) :
    ((l.iterate prog.act timed h).outcome = .aborted ∧ StrangerAborts prog l)
      ∨ ((l.iterate prog.act timed h).outcome ≠ .aborted
        ∧ Spares h (l.iterate prog.act timed h).host
        ∧ Tended none (l.iterate prog.act timed h).loop (l.iterate prog.act timed h).host) := by
  have hstranger : ∀ w ∈ l.watches, Stranger h w :=
    fun w hw => (ht.watches w hw).resolve_left (by simp)
  obtain ⟨hwatches, hnext⟩ := iterate_watches prog.act timed l h
  rcases ht.numbered.iterate_aloof (fun w hw => (hstranger w hw).aloof prog) timed with
    ⟨haborted, w, hw, haborts⟩ | ⟨hlives, hspares⟩
  · exact .inl ⟨haborted, w, hw, (hstranger w hw).callback, haborts⟩
  · have hspares := hspares rfl
    exact .inr ⟨hlives, hspares, (ht.of_apart hspares.handed.apart).of_sublist hwatches hnext
      fun x hx => by cases hx⟩

/-- A round of a loop that watches for the relay: a stranger brings the process down, or the
signal that is due is handed to the handler of the line. -/
theorem iterate_some (ht : Tended (some x) l h) (hc : Carries x pending h)
    (prog : Program κ ο β) (timed : Bool) :
    ((l.iterate prog.act timed h).outcome = .aborted ∧ StrangerAborts prog l)
      ∨ ((l.iterate prog.act timed h).outcome ≠ .aborted
        ∧ Handed ((due l h pending).map (x.handler, ·)) h (l.iterate prog.act timed h).host
        ∧ Tended (some x) (l.iterate prog.act timed h).loop
          (l.iterate prog.act timed h).host) := by
  have hbeside := ht.numbered.iterate_beside (ht.there x rfl)
    (fun w hw hne => (ht.stranger_of_ne hw hne).aloof prog) timed (h := h)
  obtain ⟨hwatches, hnext⟩ := iterate_watches prog.act timed l h
  rw [hc.poll] at hbeside
  generalize l.iterate prog.act timed h = turn at hbeside hwatches hnext ⊢
  have hkept : ∀ {notes g}, Handed notes h g → x.watch ο ∈ turn.loop.watches →
      Tended (some x) turn.loop g := by
    intro notes g hhanded hthere
    refine (ht.of_apart hhanded.apart).of_sublist hwatches hnext fun y hy => ?_
    rwa [← Option.some.inj hy]
  cases hbeside with
  | spared hquiet hlives hspares hstays =>
      have hspares := hspares rfl
      have hdue : due l h pending = [] := by
        rcases hquiet with hnone | hlimit
        · cases pending with
          | nil => simp [due]
          | cons t left => simp [PollFlags.none, wire_cons, encode] at hnone
        · rw [due, if_pos hlimit]
      rw [hdue]
      exact .inr ⟨hlives, hspares.handed, hkept hspares.handed hstays⟩
  | stays hreported hlimit hbefore hcall hafter hstays =>
      obtain ⟨quits, g', hreply, hhanded⟩ := hc.act hreported hlimit (hbefore rfl) prog
      obtain ⟨-, -, rfl⟩ := Reply.done.inj (hreply.symm.trans hcall)
      have hall := hhanded.trans (hafter (by rw [pipeOf, hhanded.relay]; rfl)).handed
      rw [List.append_nil] at hall
      exact .inr ⟨by simp, hall, hkept hall hstays⟩
  | goes hreported hlimit hbefore hcall =>
      obtain ⟨quits, g', hreply, -⟩ := hc.act hreported hlimit (hbefore rfl) prog
      cases hreply.symm.trans hcall
  | aborts hreported hlimit hbefore hcall =>
      obtain ⟨quits, g', hreply, -⟩ := hc.act hreported hlimit (hbefore rfl) prog
      cases hreply.symm.trans hcall
  | otherAborts hw hne haborts =>
      exact .inl ⟨rfl, _, hw, (ht.stranger_of_ne hw hne).callback, haborts⟩

/-- A round, of whatever loop that is tended. -/
theorem iterate (ht : Tended line? l h)
    (hcarries : ∀ x, line? = some x → ∃ pending, Carries x pending h) (prog : Program κ ο β)
    (timed : Bool) :
    ((l.iterate prog.act timed h).outcome = .aborted ∧ StrangerAborts prog l)
      ∨ ((l.iterate prog.act timed h).outcome ≠ .aborted
        ∧ HandedOn line? h (l.iterate prog.act timed h).host
        ∧ Tended line? (l.iterate prog.act timed h).loop (l.iterate prog.act timed h).host) := by
  cases line? with
  | none =>
      exact (ht.iterate_none prog timed).imp_right fun ⟨hlives, hspares, htended⟩ =>
        ⟨hlives, .of_spares hspares, htended⟩
  | some x =>
      obtain ⟨pending, hc⟩ := hcarries x rfl
      exact (ht.iterate_some hc prog timed).imp_right fun ⟨hlives, hhanded, htended⟩ =>
        ⟨hlives, .of_handed hhanded, htended⟩

/-- A part of a run: a stranger brings the process down, or signals are handed to the handler of
the relay only. -/
theorem rounds (ht : Tended line? l h)
    (hcarries : ∀ x, line? = some x → ∃ pending, Carries x pending h) (prog : Program κ ο β)
    (limit : Nat) :
    ((l.rounds prog.act limit h).outcome = .aborted ∧ StrangerAborts prog l)
      ∨ ((l.rounds prog.act limit h).outcome ≠ .aborted
        ∧ HandedOn line? h (l.rounds prog.act limit h).host
        ∧ Tended line? (l.rounds prog.act limit h).loop (l.rounds prog.act limit h).host) := by
  -- Strangers may go on the way, but none comes: whoever aborts was there from the start.
  refine (rounds_keep_or_abort
    (P := fun l' h' => l'.watches.Sublist l.watches ∧ HandedOn line? h h' ∧ Tended line? l' h')
    ?_ ?_ limit ⟨.refl _, .of_spares (.refl h), ht⟩).imp_right fun ⟨hlives, _, hkept⟩ =>
      ⟨hlives, hkept⟩
  · rintro l' h' ⟨hsublist, hhanded, ht⟩
    rcases ht.iterate (hhanded.carries hcarries) prog false with
      ⟨haborted, w, hw, haborts⟩ | ⟨hlives, hmore, ht'⟩
    · exact .inl ⟨haborted, w, hsublist.subset hw, haborts⟩
    · exact .inr ⟨hlives, (iterate_watches prog.act false l' h').1.trans hsublist,
        hhanded.trans hmore, ht'⟩
  · rintro l' h' ⟨hsublist, hhanded, ht⟩
    have hspares := spares_report h' .noWatchesLeft
    exact ⟨hsublist, hhanded.trans (.of_spares hspares), ht.of_apart hspares.handed.apart⟩

end Tended

end Relay

end GadgetModes
