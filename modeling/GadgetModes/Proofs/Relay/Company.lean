import GadgetModes.Proofs.Relay.Processes
import GadgetModes.Proofs.Relay.Streams

/-!
# Streams of bytes in company

A loop that listens to a pipe may watch other descriptors as well. As long as whatever is done
for those leaves the pipe alone (`Aside`), the loop heeds the bytes of the pipe as a loop does
that watches nothing else: what a round takes from the pipe depends on the pipe only (but for the
failures of the others, `Attended` has the cases of `Wakes`), and so does what comes of a stream
(`happen_attended`).

The others may change the data of the handlers, and report what they like. So notes tell which
signals the handler was given, and of the log only the faults of the relay are looked at.
-/

namespace GadgetModes.Relay

open GadgetModes.Log GadgetModes.MainLoop

variable {κ ν β : Type} {act : Callbacks κ (Noted ν β)} {handler : Handler β} {k : ν} {c : κ}
  {n id : Nat} {p q : Pipe} {l l' : MainLoop κ} {h g h' h'' : Host (Noted ν β)}
  {value : Int32} {values later : List Int32} {rest left : List UInt8} {more : List Event}

/-! ## What is noted, and what is reported -/

def faultsOf (h : Host (Noted ν β)) : List Event :=
  h.log.filter Event.isRelayFault

/-- The notes of some messages: those that are signals go to the handler. -/
def notesOf (k : ν) (values : List Int32) : List (ν × Signal) :=
  values.filterMap fun value => (Signal.ofNumber? value.toInt).map (k, ·)

/-- The warnings for some messages: one for each that is no signal. -/
def warningsOf (values : List Int32) : List Event :=
  (values.filter fun value => (Signal.ofNumber? value.toInt).isNone).map .unknownSignal

theorem notesOf_append (k : ν) (values later : List Int32) :
    notesOf k (values ++ later) = notesOf k values ++ notesOf k later :=
  List.filterMap_append

theorem warningsOf_append (values later : List Int32) :
    warningsOf (values ++ later) = warningsOf values ++ warningsOf later := by
  rw [warningsOf, List.filter_append, List.map_append]
  rfl

/-- A handler that reports no fault of the relay. -/
def Faultless (handler : Handler β) : Prop :=
  ∀ s data, (handler s data).log.filter Event.isRelayFault = []

theorem heed_noting (hfaultless : Faultless handler) (k : ν) (value : Int32) (data : Noted ν β) :
    (heed (noting k handler) value data).value.2.notes = data.notes ++ notesOf k [value]
      ∧ (heed (noting k handler) value data).log.filter Event.isRelayFault =
        warningsOf [value] := by
  by_cases hvalid : 1 ≤ value.toInt ∧ value.toInt ≤ 31
  · have hsignal : Signal.ofNumber? value.toInt = some ⟨value.toInt.toNat, by omega⟩ :=
      dif_pos hvalid
    have hquiet := hfaultless ⟨value.toInt.toNat, by omega⟩ data.own
    rw [heed, dif_pos hvalid, notesOf, List.filterMap_cons, hsignal, warningsOf,
      List.filter_cons, hsignal]
    refine ⟨rfl, ?_⟩
    rw [noting, Logged.log_bind, Logged.log_bind, Logged.log_pure, List.append_nil,
      List.filter_append, hquiet]
    rfl
  · have hnone : Signal.ofNumber? value.toInt = none := dif_neg hvalid
    rw [heed, dif_neg hvalid, notesOf, List.filterMap_cons, hnone, warningsOf,
      List.filter_cons, hnone]
    exact ⟨(List.append_nil _).symm, rfl⟩

/-! ## From host to host -/

/-- Nothing happens to a pipe, and nothing is noted or reported of the relay. -/
structure Aside (n : Nat) (h h' : Host (Noted ν β)) : Prop where
  pipe : h'.pipes.pipe? n = h.pipes.pipe? n
  noted : h'.data.notes = h.data.notes
  faults : faultsOf h' = faultsOf h

instance : IsPreorder (Host (Noted ν β)) (Aside n) where
  refl _ := ⟨rfl, rfl, rfl⟩
  trans _ _ _ h h' := ⟨h'.pipe.trans h.pipe, h'.noted.trans h.noted, h'.faults.trans h.faults⟩

/-- Messages were heeded, and a pipe is as it is told. More faults were reported in the end. -/
structure Took (k : ν) (n : Nat) (values : List Int32) (more : List Event) (left : Pipe)
    (h h' : Host (Noted ν β)) : Prop where
  pipe : h'.pipes.pipe? n = some left
  noted : h'.data.notes = h.data.notes ++ notesOf k values
  faults : faultsOf h' = faultsOf h ++ warningsOf values ++ more

namespace Took

theorem of_aside (hpipe : h.pipes.pipe? n = some p) (ha : Aside n h h') :
    Took k n [] [] p h h' where
  pipe := ha.pipe.trans hpipe
  noted := by rw [ha.noted, notesOf, List.filterMap_nil, List.append_nil]
  faults := by rw [ha.faults, warningsOf, List.filter_nil, List.map_nil, List.append_nil,
    List.append_nil]

theorem trans (ht : Took k n values [] p h h') (ht' : Took k n later more q h' h'') :
    Took k n (values ++ later) more q h h'' where
  pipe := ht'.pipe
  noted := by rw [ht'.noted, ht.noted, notesOf_append, List.append_assoc]
  faults := by
    rw [ht'.faults, ht.faults, warningsOf_append, List.append_nil]
    simp only [List.append_assoc]

theorem aside (ht : Took k n values more p h h') (ha : Aside n h' h'') :
    Took k n values more p h h'' where
  pipe := ha.pipe.trans ht.pipe
  noted := ha.noted.trans ht.noted
  faults := ha.faults.trans ht.faults

theorem takeOff (hfaultless : Faultless handler) (hpipe : h.pipes.pipe? n = some p)
    (value : Int32) (left : Pipe) :
    Took k n [value] [] left h (Relay.takeOff (noting k handler) n value left h) where
  pipe := Pipes.pipe?_set_self hpipe left
  noted := (heed_noting hfaultless k value h.data).1
  faults := by
    rw [faultsOf, Relay.takeOff, List.filter_append,
      (heed_noting hfaultless k value h.data).2, List.append_nil]
    rfl

/-- The watch of the pipe goes, which closes its read end. -/
theorem letGo {revents : PollFlags} (id : Nat) (c : κ) (ht : Took k n values [] p h g)
    (ha : Aside n (g.report (.relayWatchFailed revents)) h') :
    Took k n values [.relayWatchFailed revents] (p.close .read) h
      (dismiss [⟨id, ⟨n, .read⟩, conditions, c⟩] h') where
  pipe := by
    show (h'.pipes.close ⟨n, .read⟩).pipe? n = _
    have hpipe : h'.pipes.pipe? n = some p := ha.pipe.trans ht.pipe
    rw [Pipes.close_eq hpipe, Pipes.pipe?_set_self hpipe]
  noted := ha.noted.trans ht.noted
  faults := by
    have hreported : faultsOf h' = faultsOf g ++ [.relayWatchFailed revents] := by
      rw [ha.faults, faultsOf, Host.report, List.filter_append]
      rfl
    rw [← List.append_nil (warningsOf values), ← List.append_assoc, ← ht.faults, ← hreported]
    simp [faultsOf, dismiss, Host.report, Host.close, Event.isRelayFault]

end Took

/-! ## A round in company -/

/-- The watch by which a loop listens to a pipe. -/
def reader (id n : Nat) (c : κ) : Watch κ :=
  ⟨id, ⟨n, .read⟩, conditions, c⟩

/-- A loop that listens to a pipe by one of its watches, while the others leave the pipe alone. -/
structure Attends (act : Callbacks κ (Noted ν β)) (handler : Handler β) (k : ν) (c : κ)
    (n id : Nat) (p : Pipe) (l : MainLoop κ) (h : Host (Noted ν β)) : Prop where
  callback : act c = dispatch (noting k handler)
  faultless : Faultless handler
  there : reader id n c ∈ l.watches
  others : ∀ w ∈ l.watches, w ≠ reader id n c → Aloof act (Aside n) w
  numbered : l.Numbered
  pipe : h.pipes.pipe? n = some p
  readOpen : p.readOpen = true

/-- A loop whose watches leave a pipe alone listens to it when it is told to watch it. -/
theorem attends_addWatch (hcallback : act c = dispatch (noting k handler))
    (hfaultless : Faultless handler) (hothers : ∀ w ∈ l.watches, Aloof act (Aside n) w)
    (hnumbered : l.Numbered) (hnumbers : ∀ w ∈ l.watches, w.id < l.nextId)
    (hpipe : h.pipes.pipe? n = some p) (hopen : p.readOpen = true) :
    Attends act handler k c n l.nextId p (l.addWatch h ⟨n, .read⟩ conditions c).2.1
      (l.addWatch h ⟨n, .read⟩ conditions c).2.2 where
  callback := hcallback
  faultless := hfaultless
  there := List.mem_append_right _ (List.mem_singleton_self _)
  others := by
    intro w hw hne
    rcases List.mem_append.mp hw with hw | hw
    · exact hothers w hw
    · exact absurd (List.mem_singleton.mp hw) hne
  numbered := hnumbered.append hnumbers rfl rfl
  pipe := hpipe
  readOpen := hopen

/-- What a round is to do for a loop that listens to a pipe in company. The poll of such a loop
may fail, and another watch may bring the process down; apart from that the cases are those of a
loop that watches nothing else. -/
inductive Attended (act : Callbacks κ (Noted ν β)) (k : ν) (c : κ) (n id : Nat) (p : Pipe)
    (l : MainLoop κ) (h : Host (Noted ν β)) : Turn κ (Noted ν β) Nat → Prop
  | quiet {outcome : Outcome Nat} {l' : MainLoop κ} {h' : Host (Noted ν β)}
      (hquiet : p.buffered = [] ∧ p.writeOpen = true ∨ h.fileLimit < l.watches.length)
      (hlives : outcome ≠ .aborted) (htook : Took k n [] [] p h h')
      (hstays : reader id n c ∈ l'.watches) : Attended act k c n id p l h ⟨outcome, l', h'⟩
  | message {value : Int32} {rest : List UInt8} {count : Nat} {l' : MainLoop κ}
      {h' : Host (Noted ν β)} (hbytes : p.buffered = encode value ++ rest)
      (hopen : p.writeOpen = true) (htook : Took k n [value] [] { p with buffered := rest } h h')
      (hstays : reader id n c ∈ l'.watches) :
      Attended act k c n id p l h ⟨.returned count, l', h'⟩
  | lastMessage {value : Int32} {rest : List UInt8} {count : Nat} {l' : MainLoop κ}
      {h' : Host (Noted ν β)} (hbytes : p.buffered = encode value ++ rest)
      (hshut : p.writeOpen = false)
      (htook : Took k n [value] [.relayWatchFailed { readable := true, hangup := true }]
        ⟨rest, false, false⟩ h h') (hgoes : reader id n c ∉ l'.watches) :
      Attended act k c n id p l h ⟨.returned count, l', h'⟩
  | hangup {count : Nat} {l' : MainLoop κ} {h' : Host (Noted ν β)} (hnone : p.buffered = [])
      (hshut : p.writeOpen = false)
      (htook : Took k n [] [.relayWatchFailed { hangup := true }] ⟨[], false, false⟩ h h')
      (hgoes : reader id n c ∉ l'.watches) :
      Attended act k c n id p l h ⟨.returned count, l', h'⟩
  /-- Less than a message is there. -/
  | abort {h' : Host (Noted ν β)} (hsome : 1 ≤ p.buffered.length)
      (hshort : p.buffered.length ≤ 3) : Attended act k c n id p l h ⟨.aborted, l, h'⟩
  | otherAborts {w : Watch κ} {h' : Host (Noted ν β)} (hw : w ∈ l.watches)
      (hne : w ≠ reader id n c) (haborts : Aborts act w) :
      Attended act k c n id p l h ⟨.aborted, l, h'⟩

/-- What a wake-up replies, by what is in the pipe. -/
inductive Answers (k : ν) (n : Nat) (p : Pipe) (h : Host (Noted ν β)) : Reply (Noted ν β) → Prop
  | abort {h' : Host (Noted ν β)} (hsome : 1 ≤ p.buffered.length)
      (hshort : p.buffered.length ≤ 3) : Answers k n p h (.aborted h')
  | message {value : Int32} {rest : List UInt8} {quits : Bool} {g : Host (Noted ν β)}
      (hbytes : p.buffered = encode value ++ rest) (hopen : p.writeOpen = true)
      (htook : Took k n [value] [] { p with buffered := rest } h g) :
      Answers k n p h (.done .goOn quits g)
  | lastMessage {value : Int32} {rest : List UInt8} {quits : Bool} {g : Host (Noted ν β)}
      (hbytes : p.buffered = encode value ++ rest) (hshut : p.writeOpen = false)
      (htook : Took k n [value] [] { p with buffered := rest } h g) :
      Answers k n p h
        (.done .remove quits (g.report (.relayWatchFailed { readable := true, hangup := true })))
  | hangup {g : Host (Noted ν β)} (hnone : p.buffered = []) (hshut : p.writeOpen = false)
      (htook : Took k n [] [] p h g) :
      Answers k n p h (.done .remove false (g.report (.relayWatchFailed { hangup := true })))

namespace Attends

theorem reported_eq (ha : Attends act handler k c n id p l h) :
    h.pipes.poll (reader id n c).descriptor (reader id n c).conditions = reported p := by
  rw [reader, Pipes.poll_read ha.pipe ha.readOpen]
  simp [conditions, reported]

/-- What becomes of a wake-up: it aborts, or the message in front is heeded, if there is one,
and then the watch goes if nobody can write any more. -/
theorem answers (ha : Attends act handler k c n id p l h) (hreported : reported p ≠ .none)
    (haside : Aside n h g) :
    Answers k n p h (act (reader id n c).callback (reader id n c).descriptor (reported p) g) := by
  have hpipe : g.pipes.pipe? n = some p := haside.pipe.trans ha.pipe
  have hbefore := Took.of_aside (k := k) ha.pipe haside
  rw [reader, ha.callback]
  by_cases hnone : p.buffered = []
  · have hshut : p.writeOpen = false := by
      by_contra hopen
      exact hreported (reported_eq_none_iff.mpr ⟨hnone, by simpa using hopen⟩)
    have hreported : reported p = { hangup := true } := by simp [reported, hnone, hshut]
    rw [dispatch, if_neg (by simp [hreported]), conclude_reported, hshut, hreported]
    exact .hangup hnone hshut hbefore
  rcases Nat.lt_or_ge p.buffered.length messageSize with hshort | hlong
  · rw [dispatch_short hpipe ha.readOpen hnone hshort]
    exact .abort (List.length_pos_of_ne_nil hnone) (Nat.le_of_lt_succ hshort)
  obtain ⟨value, rest, hbytes⟩ := exists_encode_append hlong
  have htook : Took k n [value] [] { p with buffered := rest } h
      (takeOff (noting k handler) n value { p with buffered := rest } g) :=
    hbefore.trans (.takeOff ha.faultless hpipe value _)
  rw [dispatch_encode hpipe ha.readOpen hbytes, conclude_reported]
  by_cases hopen : p.writeOpen = true
  · rw [if_pos hopen]
    exact .message hbytes hopen htook
  · have hshut : p.writeOpen = false := by simpa using hopen
    have hreported : reported p = { readable := true, hangup := true } := by
      simp [reported, hnone, hshut]
    rw [if_neg hopen, hreported]
    exact .lastMessage hbytes hshut htook

theorem attended (ha : Attends act handler k c n id p l h) (timed : Bool) :
    Attended act k c n id p l h (iterate act timed l h) := by
  have hbeside := ha.numbered.iterate_beside ha.there ha.others timed (h := h)
  rw [ha.reported_eq] at hbeside
  generalize iterate act timed l h = turn at hbeside
  cases hbeside with
  | spared hquiet hlives hothers hstays =>
      exact .quiet (hquiet.imp_left reported_eq_none_iff.mp) hlives (.of_aside ha.pipe hothers)
        hstays
  | stays hreported _ hbefore hcall hafter hstays =>
      have hanswers := ha.answers hreported hbefore
      rw [hcall] at hanswers
      cases hanswers with
      | message hbytes hopen htook => exact .message hbytes hopen (htook.aside hafter) hstays
  | goes hreported _ hbefore hcall hafter hothers hgoes =>
      have hanswers := ha.answers hreported hbefore
      rw [hcall] at hanswers
      cases hanswers with
      | lastMessage hbytes hshut htook =>
          have hlast := (htook.letGo id c hafter).aside hothers
          rw [Pipe.close, hshut] at hlast
          exact .lastMessage hbytes hshut hlast hgoes
      | hangup hnone hshut htook =>
          have hlast := (htook.letGo id c hafter).aside hothers
          rw [Pipe.close, hnone, hshut] at hlast
          exact .hangup hnone hshut hlast hgoes
  | aborts hreported _ hbefore hcall =>
      have hanswers := ha.answers hreported hbefore
      rw [hcall] at hanswers
      cases hanswers with
      | abort hsome hshort => exact .abort hsome hshort
  | otherAborts hw hne haborts => exact .otherAborts hw hne haborts

/-- The loop goes on to listen when its watch is there, whatever is in the pipe then. -/
theorem keep (ha : Attends act handler k c n id p l h)
    (hwatches : l'.watches.Sublist l.watches) (hthere : reader id n c ∈ l'.watches)
    (hpipe : h'.pipes.pipe? n = some q) (hopen : q.readOpen = true) :
    Attends act handler k c n id q l' h' where
  callback := ha.callback
  faultless := ha.faultless
  there := hthere
  others := fun w hw => ha.others w (hwatches.subset hw)
  numbered := ha.numbered.sublist (hwatches.map _)
  pipe := hpipe
  readOpen := hopen

end Attends

/-! ## A stream in company -/

/-- A loop that does not listen to a pipe any more, whose ends are closed. -/
structure DeafAmong (act : Callbacks κ (Noted ν β)) (own : Watch κ) (n : Nat)
    (left : List UInt8) (l : MainLoop κ) (h : Host (Noted ν β)) : Prop where
  gone : own ∉ l.watches
  others : ∀ w ∈ l.watches, Aloof act (Aside n) w
  numbered : l.Numbered
  pipe : h.pipes.pipe? n = some ⟨left, false, false⟩

theorem DeafAmong.effect {own : Watch κ} (hd : DeafAmong act own n left l h) {e : Happening}
    (he : e.effect act n l h = some (l', h')) :
    Aside n h h' ∧ DeafAmong act own n left l' h' := by
  have haside : Aside n h h' ∧ l'.watches.Sublist l.watches := by
    cases e with
    | write bytes =>
        rw [Happening.effect, Pipes.write_shut hd.pipe rfl] at he
        obtain ⟨rfl, rfl⟩ := Prod.mk.inj (Option.some.inj he)
        exact ⟨⟨rfl, rfl, rfl⟩, .refl _⟩
    | close =>
        rw [Happening.effect, Host.close, Pipes.close_eq hd.pipe] at he
        obtain ⟨rfl, rfl⟩ := Prod.mk.inj (Option.some.inj he)
        refine ⟨⟨?_, rfl, rfl⟩, .refl _⟩
        show (h.pipes.set n _).pipe? n = _
        rw [Pipes.pipe?_set_self hd.pipe, hd.pipe]
        rfl
    | iterate timed =>
        rw [Happening.effect] at he
        split at he
        · cases he
        · next hlives =>
          obtain ⟨rfl, rfl⟩ := Prod.mk.inj (Option.some.inj he)
          refine ⟨?_, (iterate_watches act timed l h).1⟩
          exact ((hd.numbered.iterate_aloof hd.others timed).resolve_left
            fun haborted => hlives haborted.1).2
  obtain ⟨haside, hwatches⟩ := haside
  exact ⟨haside,
    { gone := fun hmem => hd.gone (hwatches.subset hmem)
      others := fun w hw => hd.others w (hwatches.subset hw)
      numbered := hd.numbered.sublist (hwatches.map _)
      pipe := haside.pipe.trans hd.pipe }⟩

theorem DeafAmong.happen {own : Watch κ} (hd : DeafAmong act own n left l h)
    {events : List Happening} (hhappen : happen act n events l h = some (l', h')) :
    Aside n h h' ∧ DeafAmong act own n left l' h' := by
  induction events generalizing l h with
  | nil =>
      obtain ⟨rfl, rfl⟩ := Prod.mk.inj (Option.some.inj hhappen)
      exact ⟨refl_of (Aside n) h, hd⟩
  | cons e events ih =>
      obtain ⟨⟨l₁, h₁⟩, he, hrest⟩ := Option.bind_eq_some_iff.mp hhappen
      obtain ⟨haside, hd₁⟩ := hd.effect he
      obtain ⟨hrest, hd'⟩ := ih hd₁ hrest
      exact ⟨trans_of (Aside n) haside hrest, hd'⟩

/-- From one state of loop and host to the next, the messages in front of some bytes were heeded,
one after the other, and what is left of the bytes is in the pipe. Either the loop listens still,
or it met a closed write end, which it reported before it let go of the watch. -/
inductive StreamedAmong (act : Callbacks κ (Noted ν β)) (handler : Handler β) (k : ν) (c : κ)
    (n id : Nat) (bytes : List UInt8) (isOpen : Bool) (h : Host (Noted ν β)) (l' : MainLoop κ)
    (h' : Host (Noted ν β)) : Prop
  | listens (values : List Int32) (left : List UInt8)
      (hbytes : bytes = values.flatMap encode ++ left)
      (hattends : Attends act handler k c n id ⟨left, true, isOpen⟩ l' h')
      (htook : Took k n values [] ⟨left, true, isOpen⟩ h h')
  | deaf (values : List Int32) (left : List UInt8) (readable : Bool)
      (hbytes : bytes = values.flatMap encode ++ left) (hshut : isOpen = false)
      (hdeaf : DeafAmong act (reader id n c) n left l' h')
      (htook : Took k n values [.relayWatchFailed { readable, hangup := true }]
        ⟨left, false, false⟩ h h')

theorem StreamedAmong.of_took {bytes : List UInt8} {isOpen : Bool}
    (htook : Took k n values [] p h g)
    (hs : StreamedAmong act handler k c n id bytes isOpen g l' h') :
    StreamedAmong act handler k c n id (values.flatMap encode ++ bytes) isOpen h l' h' := by
  have hmore : ∀ later left, bytes = later.flatMap encode ++ left →
      values.flatMap encode ++ bytes = (values ++ later).flatMap encode ++ left := by
    intro later left hbytes
    rw [hbytes, List.flatMap_append, List.append_assoc]
  cases hs with
  | listens later left hbytes hattends htook' =>
      exact .listens (values ++ later) left (hmore later left hbytes) hattends
        (htook.trans htook')
  | deaf later left readable hbytes hshut hdeaf htook' =>
      exact .deaf (values ++ later) left readable (hmore later left hbytes) hshut hdeaf
        (htook.trans htook')

namespace Attends

/-- A loop whose watch went for a hangup stays deaf. -/
theorem deaf (ha : Attends act handler k c n id p l h) {l₁ : MainLoop κ}
    {h₁ : Host (Noted ν β)} {readable : Bool} {events : List Happening}
    (hwatches : l₁.watches.Sublist l.watches) (hgone : reader id n c ∉ l₁.watches)
    (htook : Took k n values [.relayWatchFailed { readable, hangup := true }]
      ⟨left, false, false⟩ h h₁)
    (hhappen : Relay.happen act n events l₁ h₁ = some (l', h')) :
    StreamedAmong act handler k c n id (values.flatMap encode ++ left) false h l' h' := by
  have hdeaf : DeafAmong act (reader id n c) n left l₁ h₁ :=
    { gone := hgone
      others := fun w hw => ha.others w (hwatches.subset hw) fun heq => hgone (heq ▸ hw)
      numbered := ha.numbered.sublist (hwatches.map _)
      pipe := htook.pipe }
  obtain ⟨haside, hdeaf'⟩ := hdeaf.happen hhappen
  exact .deaf values left readable rfl rfl hdeaf' (htook.aside haside)

theorem happen (ha : Attends act handler k c n id p l h) {events : List Happening}
    (hhappen : Relay.happen act n events l h = some (l', h')) :
    StreamedAmong act handler k c n id (stream p events) (staysOpen p events) h l' h' := by
  induction events generalizing p l h with
  | nil =>
      obtain ⟨rfl, rfl⟩ := Prod.mk.inj (Option.some.inj hhappen)
      obtain ⟨buffered, readOpen, writeOpen⟩ := p
      obtain rfl : readOpen = true := ha.readOpen
      refine .listens [] buffered ?_ ?_ ?_
      · simp [stream, written]
      · simpa [staysOpen] using ha
      · simpa [staysOpen] using Took.of_aside ha.pipe (refl_of (Aside n) h)
  | cons e events ih =>
      rw [stream_cons, staysOpen_cons]
      by_cases he : ∃ timed, e = .iterate timed
      · obtain ⟨timed, rfl⟩ := he
        have hattended := ha.attended timed
        have hwatches := (iterate_watches act timed l h).1
        rw [Relay.happen, Happening.effect] at hhappen
        generalize iterate act timed l h = turn at hattended hwatches hhappen
        rw [arrive]
        cases hattended with
        | quiet hquiet hlives htook hstays =>
            rw [if_neg hlives, Option.bind_some] at hhappen
            exact (ih (ha.keep hwatches hstays htook.pipe ha.readOpen) hhappen).of_took htook
        | @message value rest count _ _ hbytes hopen htook hstays =>
            have hnext := ih (ha.keep hwatches hstays htook.pipe ha.readOpen) hhappen
            rw [stream_encode hbytes, ← List.flatMap_singleton encode value]
            exact hnext.of_took htook
        | @lastMessage value rest count _ _ hbytes hshut htook hgoes =>
            rw [stream_shut hshut, staysOpen_shut hshut, hbytes, ← List.flatMap_singleton encode]
            exact ha.deaf hwatches hgoes htook hhappen
        | hangup hnone hshut htook hgoes =>
            rw [stream_shut hshut, staysOpen_shut hshut, hnone]
            exact ha.deaf hwatches hgoes htook hhappen
        | abort => cases hhappen
        | otherAborts => cases hhappen
      · have htook : Took k n [] [] (arrive p e) h
            { h with pipes := h.pipes.set n (arrive p e) } :=
          ⟨Pipes.pipe?_set_self ha.pipe _, (List.append_nil _).symm, by
            simp [faultsOf, warningsOf]⟩
        rw [Relay.happen, Happening.effect_eq ha.pipe ha.readOpen
          fun timed heq => he ⟨timed, heq⟩] at hhappen
        have hnext := ha.keep (.refl _) ha.there htook.pipe
          ((arrive_readOpen p e).trans ha.readOpen)
        exact (ih hnext hhappen).of_took htook

end Attends

/-- Whatever happens around a pipe that a loop listens to in company, as long as the process
survives it: the loop has taken the messages off the front of all bytes that came through the
pipe, each was given to the handler or warned of, and what is left of the bytes is in the pipe.
Its next round is as `Attended` says.

The loop listens while the write end is open. When it met a closed one, it reported that and let
go of the watch, and from then on nothing more is heeded, reported, or taken from the pipe. -/
theorem happen_attended {events : List Happening} (ha : Attends act handler k c n id p l h)
    (hhappen : happen act n events l h = some (l', h')) :
    ∃ values left, stream p events = values.flatMap encode ++ left
      ∧ ((Attends act handler k c n id ⟨left, true, staysOpen p events⟩ l' h'
          ∧ Took k n values [] ⟨left, true, staysOpen p events⟩ h h'
          ∧ ∀ timed, Attended act k c n id ⟨left, true, staysOpen p events⟩ l' h'
            (iterate act timed l' h'))
        ∨ (staysOpen p events = false ∧ reader id n c ∉ l'.watches
          ∧ (∃ readable, Took k n values [.relayWatchFailed { readable, hangup := true }]
            ⟨left, false, false⟩ h h')
          ∧ ∀ later l'' h'', happen act n later l' h' = some (l'', h'') → Aside n h' h'')) := by
  cases ha.happen hhappen with
  | listens values left hbytes hattends htook =>
      exact ⟨values, left, hbytes, .inl ⟨hattends, htook, hattends.attended⟩⟩
  | deaf values left readable hbytes hshut hdeaf htook =>
      exact ⟨values, left, hbytes, .inr ⟨hshut, hdeaf.gone, ⟨readable, htook⟩,
        fun later l'' h'' hlater => (hdeaf.happen hlater).1⟩⟩

end GadgetModes.Relay
