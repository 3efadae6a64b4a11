import GadgetModes.Proofs.Relay.WakeUps
import GadgetModes.Relay.Session

/-!
# Streams of bytes

While a loop listens to a pipe, bytes are written to the pipe in any chunks, its write end may
be closed, and the loop makes rounds, all in any order (`Happening`). What the loop has heeded
then are the messages of which all these bytes consist, one after the other, and what is left
of the bytes is in the pipe (`happen_stream`). Chunks do not matter: only what is written does.

The loop listens as long as the write end is open, and up to its next wake-up after that. Then
it is deaf (`Deaf`), and nothing that happens has an effect any more.
-/

namespace GadgetModes.Relay

open GadgetModes.Log GadgetModes.MainLoop

variable {κ α : Type} {act : Callbacks κ α} {handler : Handler α} {n id : Nat} {p : Pipe}
  {l l' : MainLoop κ} {h h' : Host α}

/-! ## What happens around a pipe -/

/-- What happens around a pipe: bytes are written to it, its write end is closed, or a loop
makes a round. -/
inductive Happening where
  | write (bytes : List UInt8)
  | close
  | iterate (timed : Bool)
deriving DecidableEq

/-- Loop and host after something happened, if the process survived it. A write that fails
changes nothing. -/
def Happening.effect (act : Callbacks κ α) (n : Nat) (l : MainLoop κ) (h : Host α) :
    Happening → Option (MainLoop κ × Host α)
  | .write bytes =>
    some (l, { h with pipes := (h.pipes.write ⟨n, .write⟩ bytes).toOption.getD h.pipes })
  | .close => some (l, h.close ⟨n, .write⟩)
  | .iterate timed =>
    let turn := l.iterate act timed h
    if turn.outcome = .aborted then none else some (turn.loop, turn.host)

/-- Loop and host after several things happened, if the process survived them all. -/
def happen (act : Callbacks κ α) (n : Nat) :
    List Happening → MainLoop κ → Host α → Option (MainLoop κ × Host α)
  | [], l, h => some (l, h)
  | e :: events, l, h => (e.effect act n l h).bind fun (l, h) => happen act n events l h

/-- The bytes that get into an open pipe: those that are written before it is closed. -/
def written : List Happening → List UInt8
  | [] => []
  | .write bytes :: events => bytes ++ written events
  | .close :: _ => []
  | .iterate _ :: events => written events

/-- All bytes that come through a pipe: those in it, and those that are written to it. -/
def stream (p : Pipe) (events : List Happening) : List UInt8 :=
  p.buffered ++ if p.writeOpen then written events else []

/-- Nobody closes the write end of a pipe. -/
def staysOpen (p : Pipe) (events : List Happening) : Bool :=
  p.writeOpen && .close ∉ events

/-- A pipe after something happened to it, rounds apart. -/
def arrive (p : Pipe) : Happening → Pipe
  | .write bytes => { p with buffered := p.buffered ++ if p.writeOpen then bytes else [] }
  | .close => p.close .write
  | .iterate _ => p

theorem arrive_readOpen (p : Pipe) (e : Happening) : (arrive p e).readOpen = p.readOpen := by
  cases e <;> rfl

theorem stream_cons (p : Pipe) (e : Happening) (events : List Happening) :
    stream p (e :: events) = stream (arrive p e) events := by
  cases e <;> cases hopen : p.writeOpen <;> simp [stream, written, arrive, Pipe.close, hopen]

theorem staysOpen_cons (p : Pipe) (e : Happening) (events : List Happening) :
    staysOpen p (e :: events) = staysOpen (arrive p e) events := by
  cases e <;> simp [staysOpen, arrive, Pipe.close]

/-- What happens apart from rounds, happens to the pipe only. -/
theorem Happening.effect_eq (hpipe : h.pipes.pipe? n = some p) (hopen : p.readOpen = true)
    {e : Happening} (he : ∀ timed, e ≠ .iterate timed) :
    e.effect act n l h = some (l, { h with pipes := h.pipes.set n (arrive p e) }) := by
  cases e with
  | write bytes =>
      rw [Happening.effect, arrive]
      cases hwrite : p.writeOpen with
      | true =>
          rw [Pipes.write_open hpipe hwrite (.inl hopen), hwrite]
          rfl
      | false =>
          rw [Pipes.write_shut hpipe hwrite, if_neg (by simp), List.append_nil, ← hwrite,
            Pipes.set_self hpipe]
          rfl
  | close =>
      rw [Happening.effect, Host.close, Pipes.close_eq hpipe]
      rfl
  | iterate timed => exact absurd rfl (he timed)

theorem stream_encode {value : Int32} {rest : List UInt8}
    (hbytes : p.buffered = encode value ++ rest) (events : List Happening) :
    stream p events = encode value ++ stream { p with buffered := rest } events := by
  rw [stream, hbytes, List.append_assoc]
  rfl

theorem stream_shut (hshut : p.writeOpen = false) (events : List Happening) :
    stream p events = p.buffered := by
  simp [stream, hshut]

theorem staysOpen_shut (hshut : p.writeOpen = false) (events : List Happening) :
    staysOpen p events = false := by
  simp [staysOpen, hshut]

/-! ## Several messages -/

/-- What is to be done with several messages: each is heeded, with the data that those before
it left. The first part tells whether the loop is to quit. -/
def heedAll (handler : Handler α) : List Int32 → α → Logged (Bool × α)
  | [], data => return (false, data)
  | value :: values, data => do
    let (quits, data) ← heed handler value data
    let (later, data) ← heedAll handler values data
    return (quits || later, data)

/-- From one state of loop and host to the next, messages were heeded: the data, what was
reported, and whether the loop is to quit are as that leaves them. More events were reported in
the end. -/
structure Heeded (handler : Handler α) (values : List Int32) (more : List Event)
    (l : MainLoop κ) (h : Host α) (l' : MainLoop κ) (h' : Host α) : Prop where
  quit : l'.quit = (l.quit || (heedAll handler values h.data).value.1)
  data : h'.data = (heedAll handler values h.data).value.2
  log : h'.log = h.log ++ (heedAll handler values h.data).log ++ more

namespace Heeded

variable {values : List Int32} {value : Int32} {more : List Event}

theorem nothing (hquit : l'.quit = l.quit) (hdata : h'.data = h.data)
    (hlog : h'.log = h.log ++ more) : Heeded handler [] more l h l' h' where
  quit := by rw [hquit]; exact (Bool.or_false _).symm
  data := hdata
  log := by rw [hlog, heedAll, Logged.log_pure, List.append_nil]

/-- Of the host before only its data and its log matter. -/
theorem of_eq {g : Host α} (hh : Heeded handler values more l h l' h') (hdata : g.data = h.data)
    (hlog : g.log = h.log) : Heeded handler values more l g l' h' where
  quit := by rw [hdata]; exact hh.quit
  data := by rw [hdata]; exact hh.data
  log := by rw [hdata, hlog]; exact hh.log

theorem cons {left : Pipe}
    (hh : Heeded handler values more
      { l with quit := l.quit || (heed handler value h.data).value.1 }
      (takeOff handler n value left h) l' h') :
    Heeded handler (value :: values) more l h l' h' where
  quit := by
    rw [hh.quit]
    exact Bool.or_assoc ..
  data := hh.data
  log := by
    rw [hh.log]
    simp [takeOff, heedAll]

end Heeded

/-! ## A loop that is deaf -/

/-- A loop that watches nothing any more, and a pipe whose ends are closed. -/
structure Deaf (n : Nat) (left : List UInt8) (l : MainLoop κ) (h : Host α) : Prop where
  watches : l.watches = []
  pipe : h.pipes.pipe? n = some ⟨left, false, false⟩

theorem Deaf.effect {left : List UInt8} (hd : Deaf n left l h) (e : Happening) :
    e.effect act n l h = some (l, h) := by
  cases e with
  | write bytes =>
      rw [Happening.effect, Pipes.write_shut hd.pipe rfl]
      rfl
  | close =>
      rw [Happening.effect, Host.close, Pipes.close_eq hd.pipe]
      exact congrArg (fun pipes => some (l, { h with pipes })) (Pipes.set_self hd.pipe)
  | iterate timed =>
      rw [Happening.effect, iterate_unwatched hd.watches]
      rfl

/-- Whatever happens to a loop that is deaf, all stays as it is. -/
theorem Deaf.happen {left : List UInt8} (hd : Deaf n left l h) (events : List Happening) :
    happen act n events l h = some (l, h) := by
  induction events with
  | nil => rfl
  | cons e events ih =>
      rw [Relay.happen, hd.effect]
      exact ih

/-! ## A loop that listens -/

/-- From one state of loop and host to the next, the messages in front of some bytes were heeded,
one after the other, and what is left of the bytes is in the pipe. Either the loop listens still,
or it met a closed write end, which it reported before it let go of the watch. -/
inductive Streamed (act : Callbacks κ α) (handler : Handler α) (n id : Nat) (bytes : List UInt8)
    (isOpen : Bool) (l : MainLoop κ) (h : Host α) (l' : MainLoop κ) (h' : Host α) : Prop
  | listens (values : List Int32) (left : List UInt8)
      (hbytes : bytes = values.flatMap encode ++ left)
      (hlistens : Listens act handler n id ⟨left, true, isOpen⟩ l' h')
      (hheeded : Heeded handler values [] l h l' h')
  | deaf (values : List Int32) (left : List UInt8) (readable : Bool)
      (hbytes : bytes = values.flatMap encode ++ left) (hshut : isOpen = false)
      (hdeaf : Deaf n left l' h')
      (hheeded : Heeded handler values
        [.relayWatchFailed { readable, hangup := true }, .watchRemoved id] l h l' h')

namespace Streamed

variable {bytes : List UInt8} {isOpen : Bool}

theorem of_eq {g : Host α} (hs : Streamed act handler n id bytes isOpen l h l' h')
    (hdata : g.data = h.data) (hlog : g.log = h.log) :
    Streamed act handler n id bytes isOpen l g l' h' := by
  cases hs with
  | listens values left hbytes hlistens hheeded =>
      exact .listens values left hbytes hlistens (hheeded.of_eq hdata hlog)
  | deaf values left readable hbytes hshut hdeaf hheeded =>
      exact .deaf values left readable hbytes hshut hdeaf (hheeded.of_eq hdata hlog)

theorem cons {value : Int32} {q : Pipe}
    (hs : Streamed act handler n id bytes isOpen
      { l with quit := l.quit || (heed handler value h.data).value.1 }
      (takeOff handler n value q h) l' h') :
    Streamed act handler n id (encode value ++ bytes) isOpen l h l' h' := by
  have hmore : ∀ values left, bytes = values.flatMap encode ++ left →
      encode value ++ bytes = (value :: values).flatMap encode ++ left := by
    intro values left hbytes
    rw [hbytes, List.flatMap_cons, List.append_assoc]
  cases hs with
  | listens values left hbytes hlistens hheeded =>
      exact .listens (value :: values) left (hmore values left hbytes) hlistens hheeded.cons
  | deaf values left readable hbytes hshut hdeaf hheeded =>
      exact .deaf (value :: values) left readable (hmore values left hbytes) hshut hdeaf
        hheeded.cons

/-- A loop that lets go of its watch for a hangup stays as it is. -/
theorem of_letGo {g : Host α} {readable : Bool} {events : List Happening}
    (hpipe : g.pipes.pipe? n = some p) (hshut : p.writeOpen = false)
    (hhappen : happen act n events { l with watches := [] }
      (letGo n id { readable, hangup := true } g) = some (l', h')) :
    Streamed act handler n id p.buffered false l g l' h' := by
  have hdeaf : Deaf n p.buffered ({ l with watches := [] } : MainLoop κ)
      (letGo n id { readable, hangup := true } g) := by
    refine ⟨rfl, ?_⟩
    show (g.pipes.close ⟨n, .read⟩).pipe? n = _
    rw [Pipes.close_eq hpipe, Pipes.pipe?_set_self hpipe, Pipe.close, hshut]
  rw [hdeaf.happen] at hhappen
  obtain ⟨rfl, rfl⟩ := Prod.mk.inj (Option.some.inj hhappen)
  refine .deaf [] p.buffered readable rfl rfl hdeaf (.nothing rfl rfl ?_)
  simp [letGo, Host.report, Host.close]

end Streamed

namespace Listens

/-- The loop goes on to listen when something changes in the pipe, but at its read end. -/
theorem set (hl : Listens act handler n id p l h) {q : Pipe} {g : Host α} (quit : Bool)
    (hpipes : g.pipes = h.pipes.set n q) (hopen : q.readOpen = p.readOpen)
    (hlimit : g.fileLimit = h.fileLimit) : Listens act handler n id q { l with quit } g where
  watch := hl.watch
  pipe := by rw [hpipes]; exact Pipes.pipe?_set_self hl.pipe q
  readOpen := hopen.trans hl.readOpen
  fileLimit := by rw [hlimit]; exact hl.fileLimit

theorem happen (hl : Listens act handler n id p l h) {events : List Happening}
    (hhappen : Relay.happen act n events l h = some (l', h')) :
    Streamed act handler n id (stream p events) (staysOpen p events) l h l' h' := by
  induction events generalizing p l h with
  | nil =>
      obtain ⟨rfl, rfl⟩ := Prod.mk.inj (Option.some.inj hhappen)
      obtain ⟨buffered, readOpen, writeOpen⟩ := p
      obtain rfl : readOpen = true := hl.readOpen
      refine .listens [] buffered ?_ ?_ ?_
      · simp [stream, written]
      · simpa [staysOpen] using hl
      · exact .nothing rfl rfl (List.append_nil _).symm
  | cons e events ih =>
      rw [stream_cons, staysOpen_cons]
      by_cases he : ∃ timed, e = .iterate timed
      · obtain ⟨timed, rfl⟩ := he
        have hwakes := hl.wakes timed
        rw [Relay.happen, Happening.effect] at hhappen
        generalize iterate act timed l h = turn at hwakes hhappen
        cases hwakes with
        | quiet hnone hopen =>
            have hstays : Relay.happen act n events l h = some (l', h') := by
              cases timed <;> exact hhappen
            exact ih hl hstays
        | abort hsome hshort => cases hhappen
        | @message value rest hbytes hopen =>
            rw [arrive, stream_encode hbytes]
            have hnext := hl.set (g := takeOff handler n value { p with buffered := rest } h)
              (l.quit || (heed handler value h.data).value.1) rfl rfl rfl
            exact (ih hnext hhappen).cons
        | @lastMessage value rest hbytes hshut =>
            rw [arrive, stream_encode hbytes, stream_shut (p := { p with buffered := rest }) hshut,
              staysOpen_shut hshut]
            refine Streamed.cons (q := { p with buffered := rest }) ?_
            exact .of_letGo (Pipes.pipe?_set_self hl.pipe _) hshut hhappen
        | hangup hnone hshut =>
            rw [arrive, stream_shut hshut, staysOpen_shut hshut]
            exact .of_letGo hl.pipe hshut hhappen
      · have hnext := hl.set (g := { h with pipes := h.pipes.set n (arrive p e) }) l.quit rfl
          (arrive_readOpen p e) rfl
        rw [Relay.happen, Happening.effect_eq hl.pipe hl.readOpen fun timed heq => he ⟨timed, heq⟩]
          at hhappen
        exact (ih hnext hhappen).of_eq rfl rfl

end Listens

/-- Whatever happens around a pipe that a loop listens to, as long as the process survives it:
the loop has taken the messages off the front of all bytes that came through the pipe, and has
heeded them one after the other; what is left of the bytes is in the pipe. Its next round is as
`Wakes` says, and brings the process down if there is something in the pipe that is shorter than
a message, and in no other case.

The loop listens while the write end is open. When it met a closed one, it reported that and let
go of the watch, and from then on nothing has any effect. -/
theorem happen_stream {events : List Happening} (hl : Listens act handler n id p l h)
    (hhappen : happen act n events l h = some (l', h')) :
    ∃ values left, stream p events = values.flatMap encode ++ left
      ∧ ((Listens act handler n id ⟨left, true, staysOpen p events⟩ l' h'
          ∧ Heeded handler values [] l h l' h'
          ∧ ∀ timed,
            Wakes handler n id ⟨left, true, staysOpen p events⟩ timed l' h'
              (iterate act timed l' h')
            ∧ ((iterate act timed l' h').outcome = .aborted ↔
              1 ≤ left.length ∧ left.length ≤ 3))
        ∨ (staysOpen p events = false ∧ Deaf n left l' h'
          ∧ (∃ readable, Heeded handler values
              [.relayWatchFailed { readable, hangup := true }, .watchRemoved id] l h l' h')
          ∧ ∀ later, happen act n later l' h' = some (l', h'))) := by
  cases hl.happen hhappen with
  | listens values left hbytes hlistens hheeded =>
      exact ⟨values, left, hbytes, .inl ⟨hlistens, hheeded, fun timed =>
        ⟨hlistens.wakes timed, hlistens.aborted_iff timed⟩⟩⟩
  | deaf values left readable hbytes hshut hdeaf hheeded =>
      exact ⟨values, left, hbytes, .inr ⟨hshut, hdeaf, ⟨readable, hheeded⟩, hdeaf.happen⟩⟩

section Example

/-- A loop that listens to an empty pipe, with its host. -/
def listening : MainLoop Recorder × Host (List Signal) :=
  (({} : MainLoop Recorder).addWatch { pipes := ⟨[{}]⟩, data := [] } ⟨0, .read⟩ conditions {}).2

/-- The message of a hangup, one of no signal, and one of an interrupt that is read after the
write end was closed. Chunks end within messages, and one byte is left over. -/
def chopped : List Happening :=
  [.write [1, 0, 0, 0, 15], .iterate true, .write [39, 0], .write [0], .iterate false,
    .write [2, 0, 0, 0, 7], .close, .iterate true, .iterate true]

/-- The last byte stays in the pipe and does no harm. -/
theorem happen_stream_chopped :
    ∃ l h, happen Recorder.act 0 chopped listening.1 listening.2 = some (l, h)
      ∧ ∃ values left, stream {} chopped = values.flatMap encode ++ left
        ∧ Deaf 0 left l h
        ∧ (∃ readable, Heeded ({} : Recorder).handle values
            [.relayWatchFailed { readable, hangup := true }, .watchRemoved 1]
            listening.1 listening.2 l h)
        ∧ h.data = [.hangup, .interrupt] ∧ left = [7] := by
  have hl : Listens Recorder.act ({} : Recorder).handle 0 1 {} listening.1 listening.2 :=
    listens_addWatch (l := {}) rfl (show Recorder.act {} = _ from rfl) rfl rfl (by decide)
  have hview : (happen Recorder.act 0 chopped listening.1 listening.2).map
      (fun x => (x.1.watches, x.2.data, x.2.pipes.pipe? 0)) =
        some ([], [.hangup, .interrupt], some ⟨[7], false, false⟩) := by
    decide +kernel
  obtain ⟨⟨l, h⟩, hhappen, heq⟩ := Option.map_eq_some_iff.mp hview
  obtain ⟨hwatches, hdata, hpipe⟩ : l.watches = [] ∧ h.data = [.hangup, .interrupt]
      ∧ h.pipes.pipe? 0 = some ⟨[7], false, false⟩ := by simpa using heq
  refine ⟨l, h, hhappen, ?_⟩
  obtain ⟨values, left, hstream, ⟨hlistens, -⟩ | ⟨-, hdeaf, hheeded, -⟩⟩ :=
    happen_stream hl hhappen
  · obtain ⟨k, hw, -⟩ := hlistens.watch
    rw [hwatches] at hw
    cases hw
  · refine ⟨values, left, hstream, hdeaf, hheeded, hdata, ?_⟩
    have hleft := hdeaf.pipe
    rw [hpipe] at hleft
    exact (congrArg Pipe.buffered (Option.some.inj hleft)).symm

end Example

end GadgetModes.Relay
