import GadgetModes.Proofs.Host.Pipes
import GadgetModes.Proofs.MainLoop.Rounds
import GadgetModes.Proofs.Relay.Messages
import GadgetModes.Relay.Dispatch

/-!
# Wake-ups by a pipe

What a round does whose one watch dispatches what comes through a pipe (`Listens`). The bytes
in the pipe are arbitrary, and so is the handler: it may keep any data, report anything, and
ask to quit at any signal. Each mix of bytes that are there and of a write end that is open or
closed has its own outcome (`Wakes`), and a round has no other (`Listens.wakes`).
-/

namespace GadgetModes.Relay

open GadgetModes.Log GadgetModes.MainLoop

variable {κ α : Type} {act : Callbacks κ α} {handler : Handler α} {n id : Nat} {p : Pipe}
  {value : Int32} {rest : List UInt8} {l : MainLoop κ} {h : Host α} {timed : Bool}

/-! ## One message -/

/-- What is to be done with a message: the number of a signal brings one call of the handler,
and any other number one warning. -/
def heed (handler : Handler α) (value : Int32) (data : α) : Logged (Bool × α) :=
  if hvalid : 1 ≤ value.toInt ∧ value.toInt ≤ 31 then do
    Logged.report (.relayingSignal ⟨value.toInt.toNat, by omega⟩)
    handler ⟨value.toInt.toNat, by omega⟩ data
  else do
    Logged.report (.unknownSignal value)
    return (false, data)

/-- The host after a message was taken off a pipe and heeded, and others were left there. -/
def takeOff (handler : Handler α) (n : Nat) (value : Int32) (left : Pipe) (h : Host α) : Host α :=
  { h with
    pipes := h.pipes.set n left
    log := h.log ++ (heed handler value h.data).log
    data := (heed handler value h.data).value.2 }

theorem hand_eq (handler : Handler α) (value : Int32) (h : Host α) :
    hand handler value h =
      ((heed handler value h.data).value.1,
        { h with
          log := h.log ++ (heed handler value h.data).log
          data := (heed handler value h.data).value.2 }) := by
  by_cases hvalid : 1 ≤ value.toInt ∧ value.toInt ≤ 31
  · simp [hand, heed, Signal.ofNumber?, hvalid]
  · simp [hand, heed, Signal.ofNumber?, hvalid, Host.report]

theorem heed_numberOf (handler : Handler α) (s : Signal) (data : α) :
    heed handler (numberOf s) data =
      (do Logged.report (.relayingSignal s); handler s data) := by
  have hs := s.valid
  have hvalue : (numberOf s).toInt.toNat = s.number := by rw [toInt_numberOf, Int.toNat_natCast]
  rw [heed, dif_pos (by rw [toInt_numberOf]; omega)]
  simp only [hvalue]

/-! ## One wake-up -/

/-- What is reported of the read end of a pipe to a watch of the relay. -/
def reported (p : Pipe) : PollFlags :=
  { readable := !p.buffered.isEmpty, hangup := !p.writeOpen }

theorem reported_eq_none_iff : reported p = .none ↔ p.buffered = [] ∧ p.writeOpen = true := by
  simp [reported, PollFlags.none]

theorem reported_meets (p : Pipe) : (reported p).meets failing = !p.writeOpen := by
  cases hw : p.writeOpen <;>
    simp [reported, failing, PollFlags.meets, PollFlags.inter, PollFlags.isEmpty, hw]

/-- The watch goes when nobody can write any more. -/
theorem conclude_reported (p : Pipe) (quits : Bool) (h : Host α) :
    conclude (reported p) quits h =
      if p.writeOpen then .done .goOn quits h
      else .done .remove quits (h.report (.relayWatchFailed (reported p))) := by
  rw [conclude, reported_meets]
  cases p.writeOpen <;> rfl

/-- A message is heeded before the watch goes that has met a hangup. -/
theorem dispatch_encode (hpipe : h.pipes.pipe? n = some p) (hopen : p.readOpen = true)
    (hbytes : p.buffered = encode value ++ rest) :
    dispatch handler ⟨n, .read⟩ (reported p) h =
      conclude (reported p) (heed handler value h.data).value.1
        (takeOff handler n value { p with buffered := rest } h) := by
  have hreadable : (reported p).readable = true := by simp [reported, hbytes, encode]
  rw [dispatch, if_pos hreadable, receive_encode hpipe hopen hbytes]
  simp only [hand_eq]
  rfl

theorem dispatch_short (hpipe : h.pipes.pipe? n = some p) (hopen : p.readOpen = true)
    (hsome : p.buffered ≠ []) (hshort : p.buffered.length < messageSize) :
    dispatch handler ⟨n, .read⟩ (reported p) h =
      .aborted ({ h with pipes := h.pipes.set n { p with buffered := [] } }.report
        (.relayCorrupted (.short p.buffered.length))) := by
  have hreadable : (reported p).readable = true := by simp [reported, hsome]
  rw [dispatch, if_pos hreadable, receive_short hpipe hopen hsome hshort]

/-! ## One round -/

/-- A loop whose one watch dispatches what comes through a pipe. One that has other watches
besides it attends to the pipe (`Attends`). -/
structure Listens (act : Callbacks κ α) (handler : Handler α) (n id : Nat) (p : Pipe)
    (l : MainLoop κ) (h : Host α) : Prop where
  watch : ∃ k, l.watches = [⟨id, ⟨n, .read⟩, conditions, k⟩] ∧ act k = dispatch handler
  pipe : h.pipes.pipe? n = some p
  readOpen : p.readOpen = true
  fileLimit : 1 ≤ h.fileLimit

/-- A loop without other watches listens to a pipe that it is told to watch. -/
theorem listens_addWatch (hwatches : l.watches = []) {k : κ} (hk : act k = dispatch handler)
    (hpipe : h.pipes.pipe? n = some p) (hopen : p.readOpen = true) (hlimit : 1 ≤ h.fileLimit) :
    Listens act handler n l.nextId p (l.addWatch h ⟨n, .read⟩ conditions k).2.1
      (l.addWatch h ⟨n, .read⟩ conditions k).2.2 where
  watch := ⟨k, by rw [addWatch, hwatches]; rfl, hk⟩
  pipe := hpipe
  readOpen := hopen
  fileLimit := hlimit

/-- The host after the watch of a pipe went, because of what was reported to it. -/
def letGo (n id : Nat) (revents : PollFlags) (h : Host α) : Host α :=
  ((h.report (.relayWatchFailed revents)).close ⟨n, .read⟩).report (.watchRemoved id)

/-- What a round is to do to a loop that listens to a pipe: it takes one message off the pipe,
if there is anything in it, and lets go of the watch when nobody can write any more. -/
inductive Wakes (handler : Handler α) (n id : Nat) (p : Pipe) (timed : Bool) (l : MainLoop κ)
    (h : Host α) : Turn κ α Nat → Prop
  /-- No wake-up, as nothing is there and something can still come. -/
  | quiet (hnone : p.buffered = []) (hopen : p.writeOpen = true) :
      Wakes handler n id p timed l h ⟨if timed then .returned 0 else .asleep, l, h⟩
  /-- Less than a message is there. -/
  | abort (hsome : 1 ≤ p.buffered.length) (hshort : p.buffered.length ≤ 3) :
      Wakes handler n id p timed l h
        ⟨.aborted, l, { h with pipes := h.pipes.set n { p with buffered := [] } }.report
          (.relayCorrupted (.short p.buffered.length))⟩
  | message {value : Int32} {rest : List UInt8} (hbytes : p.buffered = encode value ++ rest)
      (hopen : p.writeOpen = true) :
      Wakes handler n id p timed l h
        ⟨.returned 1, { l with quit := l.quit || (heed handler value h.data).value.1 },
          takeOff handler n value { p with buffered := rest } h⟩
  | lastMessage {value : Int32} {rest : List UInt8} (hbytes : p.buffered = encode value ++ rest)
      (hshut : p.writeOpen = false) :
      Wakes handler n id p timed l h
        ⟨.returned 1,
          { l with watches := [], quit := l.quit || (heed handler value h.data).value.1 },
          letGo n id { readable := true, hangup := true }
            (takeOff handler n value { p with buffered := rest } h)⟩
  | hangup (hnone : p.buffered = []) (hshut : p.writeOpen = false) :
      Wakes handler n id p timed l h
        ⟨.returned 1, { l with watches := [] }, letGo n id { hangup := true } h⟩

namespace Listens

theorem ready (hl : Listens act handler n id p l h) :
    l.ready h.pipes =
      if reported p = .none then []
      else l.watches.map fun w => (w, reported p) := by
  obtain ⟨k, hw, -⟩ := hl.watch
  have hpoll : h.pipes.poll ⟨n, .read⟩ conditions = reported p := by
    rw [Pipes.poll_read hl.pipe hl.readOpen]
    simp [conditions, reported]
  rw [MainLoop.ready, polled, hw, List.map_singleton, hpoll]
  by_cases hnone : reported p = .none
  · rw [if_pos hnone, hnone]
    rfl
  · have hsome : (reported p).isEmpty = false := by
      simpa [PollFlags.isEmpty, PollFlags.none] using hnone
    simp [hnone, hsome]

theorem limit (hl : Listens act handler n id p l h) : l.watches.length ≤ h.fileLimit := by
  obtain ⟨k, hw, -⟩ := hl.watch
  rw [hw]
  exact hl.fileLimit

theorem iterate_quiet (hl : Listens act handler n id p l h) (hnone : p.buffered = [])
    (hopen : p.writeOpen = true) (timed : Bool) :
    iterate act timed l h = ⟨if timed then .returned 0 else .asleep, l, h⟩ := by
  obtain ⟨k, hw, -⟩ := hl.watch
  have hready : l.ready h.pipes = [] := by
    rw [hl.ready, if_pos (reported_eq_none_iff.mpr ⟨hnone, hopen⟩)]
  rw [iterate_of_ready_nil hl.limit hready]
  simp [hw]

/-- A round calls the callback of the watch if anything is reported to it. -/
theorem serve (hl : Listens act handler n id p l h) (hsome : reported p ≠ .none) :
    MainLoop.serve act (l.ready h.pipes) h =
      match dispatch handler ⟨n, .read⟩ (reported p) h with
      | .aborted h => .error h
      | .done action quits h => .ok ⟨if action = .remove then [id] else [], quits, h⟩ := by
  obtain ⟨k, hw, hk⟩ := hl.watch
  rw [hl.ready, if_neg hsome, hw, List.map_singleton, MainLoop.serve, hk]
  split <;> simp_all [MainLoop.serve, Except.map]

theorem iterate_abort (hl : Listens act handler n id p l h) (hsome : p.buffered ≠ [])
    (hshort : p.buffered.length < messageSize) (timed : Bool) :
    iterate act timed l h =
      ⟨.aborted, l, { h with pipes := h.pipes.set n { p with buffered := [] } }.report
        (.relayCorrupted (.short p.buffered.length))⟩ := by
  have hwoken : reported p ≠ .none := fun hnone => hsome (reported_eq_none_iff.mp hnone).1
  have hserve := hl.serve hwoken
  rw [dispatch_short hl.pipe hl.readOpen hsome hshort] at hserve
  exact iterate_of_serve_error hl.limit hserve

/-- A wake-up that ends well: the watch goes if nobody can write any more. -/
theorem iterate_conclude (hl : Listens act handler n id p l h) (hsome : reported p ≠ .none)
    {quits : Bool} {h' : Host α}
    (hdispatch : dispatch handler ⟨n, .read⟩ (reported p) h = conclude (reported p) quits h')
    (timed : Bool) :
    iterate act timed l h =
      if p.writeOpen then ⟨.returned 1, { l with quit := l.quit || quits }, h'⟩
      else ⟨.returned 1, { l with watches := [], quit := l.quit || quits },
        letGo n id (reported p) h'⟩ := by
  obtain ⟨k, hw, -⟩ := hl.watch
  have hserve := hl.serve hsome
  have hready : l.ready h.pipes = l.watches.map fun w => (w, reported p) := by
    rw [hl.ready, if_neg hsome]
  rw [hdispatch, conclude_reported] at hserve
  cases hopen : p.writeOpen with
  | true =>
      simp only [hopen, if_true] at hserve
      rw [iterate_of_serve_ok hl.limit hserve, hready, hw]
      rfl
  | false =>
      simp only [hopen] at hserve
      rw [iterate_of_serve_ok hl.limit hserve, hready, hw]
      simp [removeWatches, removeWatch, letGo]

theorem iterate_message (hl : Listens act handler n id p l h)
    (hbytes : p.buffered = encode value ++ rest) (timed : Bool) :
    iterate act timed l h =
      if p.writeOpen then
        ⟨.returned 1, { l with quit := l.quit || (heed handler value h.data).value.1 },
          takeOff handler n value { p with buffered := rest } h⟩
      else ⟨.returned 1,
        { l with watches := [], quit := l.quit || (heed handler value h.data).value.1 },
        letGo n id (reported p) (takeOff handler n value { p with buffered := rest } h)⟩ := by
  have hwoken : reported p ≠ .none := by
    rw [Ne, reported_eq_none_iff, hbytes]
    simp [encode]
  exact hl.iterate_conclude hwoken (dispatch_encode hl.pipe hl.readOpen hbytes) timed

theorem iterate_hangup (hl : Listens act handler n id p l h) (hnone : p.buffered = [])
    (hshut : p.writeOpen = false) (timed : Bool) :
    iterate act timed l h =
      ⟨.returned 1, { l with watches := [] }, letGo n id (reported p) h⟩ := by
  have hwoken : reported p ≠ .none := by
    rw [Ne, reported_eq_none_iff, hshut]
    simp
  have hdispatch : dispatch handler ⟨n, .read⟩ (reported p) h = conclude (reported p) false h := by
    rw [dispatch, if_neg (by simp [reported, hnone])]
  rw [hl.iterate_conclude hwoken hdispatch, hshut, Bool.or_false]
  rfl

/-- Less than a message aborts; what else can be in a pipe is nothing, or a message in front. -/
theorem wakes (hl : Listens act handler n id p l h) (timed : Bool) :
    Wakes handler n id p timed l h (iterate act timed l h) := by
  by_cases hnone : p.buffered = []
  · cases hopen : p.writeOpen with
    | true =>
        rw [hl.iterate_quiet hnone hopen]
        exact .quiet hnone hopen
    | false =>
        have hreported : reported p = { hangup := true } := by simp [reported, hnone, hopen]
        rw [hl.iterate_hangup hnone hopen, hreported]
        exact .hangup hnone hopen
  rcases Nat.lt_or_ge p.buffered.length messageSize with hshort | hlong
  · rw [hl.iterate_abort hnone hshort]
    exact .abort (List.length_pos_of_ne_nil hnone) (Nat.le_of_lt_succ hshort)
  · obtain ⟨value, rest, hbytes⟩ := exists_encode_append hlong
    rw [hl.iterate_message hbytes]
    by_cases hopen : p.writeOpen = true
    · rw [if_pos hopen]
      exact .message hbytes hopen
    · have hshut : p.writeOpen = false := by simpa using hopen
      have hreported : reported p = { readable := true, hangup := true } := by
        simp [reported, hnone, hshut]
      rw [if_neg hopen, hreported]
      exact .lastMessage hbytes hshut

theorem aborted_iff (hl : Listens act handler n id p l h) (timed : Bool) :
    (iterate act timed l h).outcome = .aborted ↔
      1 ≤ p.buffered.length ∧ p.buffered.length ≤ 3 := by
  constructor
  · intro haborted
    have hwakes := hl.wakes timed
    generalize iterate act timed l h = turn at haborted hwakes
    cases hwakes with
    | abort hsome hshort => exact ⟨hsome, hshort⟩
    | quiet => cases timed <;> cases haborted
    | _ => cases haborted
  · rintro ⟨hsome, hshort⟩
    rw [hl.iterate_abort (List.ne_nil_of_length_pos hsome) (Nat.lt_succ_of_le hshort)]

end Listens

end GadgetModes.Relay
