import GadgetModes.Proofs.Relay.Messages
import GadgetModes.Relay.Exchange

/-!
# First in, first out

In an exchange over a new pipe no byte is lost, made up or moved: what was read, followed by what
is still in the pipe, is what was written (`first_in_first_out`). If nothing but messages was
written, these are the messages that are received, in the same order.
-/

namespace GadgetModes.Relay

namespace Exchange

/-! ## What is asked and what comes of it -/

/-- A request with its answer and the bytes that were read out of the pipe for it. -/
structure Entry where
  request : Request
  answer : Answer
  drawn : List UInt8

/-- Whether an answer tells of a failure. A message that was cut short is none: it was read. -/
def Answer.fails : Answer → Bool
  | .notHeld => true
  | .sent (.error _) => true
  | .received (.error (.system _)) => true
  | .written (.error _) => true
  | _ => false

/-- The bytes that a request put into the pipe, if it succeeded. -/
def Entry.put (e : Entry) : List UInt8 :=
  match e.request, e.answer with
  | .send value _, .sent (.ok _) => encode value
  | .write bytes, .written (.ok count) => bytes.take count
  | _, _ => []

def Entry.sent? (e : Entry) : Option Int32 :=
  match e.request, e.answer with
  | .send value _, .sent (.ok _) => some value
  | _, _ => none

def Entry.received? (e : Entry) : Option Int32 :=
  match e.answer with
  | .received (.ok value) => some value
  | _ => none

/-- A request that failed put nothing into the pipe and got no message over it. -/
theorem Entry.of_fails {e : Entry} (h : e.answer.fails = true) :
    e.put = [] ∧ e.sent? = none ∧ e.received? = none := by
  rw [put, sent?, received?]
  refine ⟨?_, ?_, ?_⟩ <;> split <;> simp_all [Answer.fails]

def isOpen (x : Exchange) (side : Side) : Bool :=
  x.pipes.isOpen ⟨x.pipe, side⟩

/-- The bytes that are read out of the pipe for a request. -/
def drawn (x : Exchange) : Request → List UInt8
  | .receive way =>
    match (way.bind x.descriptor?).map (x.pipes.read · messageSize) with
    | some (.ok (bytes, _)) => bytes
    | _ => []
  | _ => []

def entry (x : Exchange) (r : Request) : Entry :=
  ⟨r, (x.step r).1, x.drawn r⟩

def after (x : Exchange) (requests : List Request) : Exchange :=
  requests.foldl (fun x r => (x.step r).2) x

def transcript : Exchange → List Request → List Entry
  | _, [] => []
  | x, r :: requests => x.entry r :: (x.step r).2.transcript requests

/-! ## One request -/

/-- What is known of the pipe that an exchange is over. -/
def Over (x : Exchange) (p : Pipe) : Prop :=
  x.pipes.pipe? x.pipe = some p

def withPipe (x : Exchange) (q : Pipe) : Exchange :=
  { x with pipes := x.pipes.set x.pipe q }

/-- Whether a request can be carried out on a pipe, as far as the ends of it matter. -/
def Request.Possible (p : Pipe) : Request → Prop
  | .send _ way => way = some .write ∧ p.readOpen = true ∧ p.writeOpen = true
  | .receive way => way = some .read ∧ p.readOpen = true
  | .write bytes => p.writeOpen = true ∧ (p.readOpen = true ∨ bytes = [])
  | .close _ => True

/-- What comes of a request, and the pipe that it leaves behind. How a request fails that is not
possible is left open. -/
inductive Served (p : Pipe) : Entry → Pipe → Prop
  | sent (value : Int32) :
      Served p ⟨.send value (some .write), .sent (.ok ()), []⟩
        { p with buffered := p.buffered ++ encode value }
  | written (bytes : List UInt8) :
      Served p ⟨.write bytes, .written (.ok bytes.length), []⟩
        { p with buffered := p.buffered ++ bytes }
  | received (h : messageSize ≤ p.buffered.length) :
      Served p
        ⟨.receive (some .read), .received (.ok (decode (p.buffered.take messageSize))),
          p.buffered.take messageSize⟩
        { p with buffered := p.buffered.drop messageSize }
  | short (h : p.buffered.length < messageSize) (hend : p.buffered = [] → p.writeOpen = false) :
      Served p
        ⟨.receive (some .read), .received (.error (.short p.buffered.length)), p.buffered⟩
        { p with buffered := [] }
  | wouldBlock (hnone : p.buffered = []) (hwrite : p.writeOpen = true) :
      Served p ⟨.receive (some .read), .received (.error (.system .wouldBlock)), []⟩ p
  | closed (side : Side) : Served p ⟨.close side, .done, []⟩ (p.close side)
  | failed {r : Request} {a : Answer} (hr : ¬r.Possible p) (ha : a.fails = true) :
      Served p ⟨r, a, []⟩ p

section Step

variable {x : Exchange} {p q : Pipe} {e : Entry}

namespace Over

theorem of_start : start.Over {} :=
  Pipes.pipe?_create {}

theorem withPipe (h : x.Over p) (q : Pipe) : (x.withPipe q).Over q :=
  Pipes.pipe?_set_self h q

theorem withPipe_self (h : x.Over p) : x.withPipe p = x := by
  rw [Exchange.withPipe, Pipes.set_self h]

theorem buffered (h : x.Over p) : x.buffered = p.buffered := by
  rw [Exchange.buffered, h]
  rfl

theorem isOpen (h : x.Over p) (side : Side) : x.isOpen side = p.isOpen side :=
  Pipes.isOpen_eq h side

theorem descriptor? (h : x.Over p) (side : Side) (hopen : p.isOpen side = true) :
    x.descriptor? side = some ⟨x.pipe, side⟩ :=
  if_pos (show x.isOpen side = true by rw [h.isOpen, hopen])

/-- The descriptor that is used for a way is one for the end of that way. -/
theorem of_descriptor? (h : x.Over p) {way : Way} {d : Descriptor} {side : Side}
    (hway : way.bind x.descriptor? = some d) (hd : x.pipes.openPipe? d side = some q) :
    q = p ∧ d.pipe = x.pipe ∧ way = some side ∧ p.isOpen side = true := by
  obtain ⟨side', rfl, hside⟩ := Option.bind_eq_some_iff.mp hway
  rw [Exchange.descriptor?] at hside
  split at hside
  · obtain rfl := Option.some.inj hside
    obtain ⟨rfl, hq, hopen⟩ := Pipes.openPipe?_eq_some_iff.mp hd
    obtain rfl := Option.some.inj (h.symm.trans hq)
    exact ⟨rfl, rfl, rfl, hopen⟩
  · cases hside

theorem step_send (h : x.Over p) (hread : p.readOpen = true) (hwrite : p.writeOpen = true)
    (value : Int32) :
    x.step (.send value (some .write)) =
      (.sent (.ok ()), x.withPipe { p with buffered := p.buffered ++ encode value }) := by
  rw [step, Option.bind_some, h.descriptor? .write hwrite, send_open h hread hwrite]
  rfl

theorem step_write (h : x.Over p) (hwrite : p.writeOpen = true) {bytes : List UInt8}
    (hread : p.readOpen = true ∨ bytes = []) :
    x.step (.write bytes) =
      (.written (.ok bytes.length),
        x.withPipe { p with buffered := p.buffered ++ bytes }) := by
  rw [step, h.descriptor? .write hwrite]
  dsimp only
  rw [Pipes.write_open h hwrite hread]
  rfl

theorem served_send (h : x.Over p) (value : Int32) (way : Way) :
    ∃ q, (x.step (.send value way)).2 = x.withPipe q
      ∧ Served p (x.entry (.send value way)) q := by
  by_cases hopen : Request.Possible p (.send value way)
  · obtain ⟨rfl, hread, hwrite⟩ := hopen
    rw [entry, h.step_send hread hwrite]
    exact ⟨_, rfl, .sent value⟩
  · rw [entry, step]
    cases hsend : send x.pipes (way.bind x.descriptor?) value with
    | error fault => exact ⟨p, h.withPipe_self.symm, .failed hopen rfl⟩
    | ok pipes =>
        -- What was sent went through the write end while the other end was open.
        obtain ⟨d, hway, hwritten⟩ := write_of_send hsend
        obtain ⟨p', hp', hread, -⟩ := Pipes.write_ok hwritten
        obtain ⟨rfl, -, rfl, hwrite⟩ := h.of_descriptor? hway hp'
        exact absurd ⟨rfl, hread.resolve_right (encode_ne_nil value), hwrite⟩ hopen

theorem served_write (h : x.Over p) (bytes : List UInt8) :
    ∃ q, (x.step (.write bytes)).2 = x.withPipe q ∧ Served p (x.entry (.write bytes)) q := by
  by_cases hopen : Request.Possible p (.write bytes)
  · rw [entry, h.step_write hopen.1 hopen.2]
    exact ⟨_, rfl, .written bytes⟩
  · rw [entry, step]
    cases hway : x.descriptor? .write with
    | none => exact ⟨p, h.withPipe_self.symm, .failed hopen rfl⟩
    | some d =>
        dsimp only
        cases hwritten : x.pipes.write d bytes with
        | error e => exact ⟨p, h.withPipe_self.symm, .failed hopen rfl⟩
        | ok ps =>
            obtain ⟨p', hp', hread, -⟩ := Pipes.write_ok hwritten
            have hway : Option.bind (some .write) x.descriptor? = some d := hway
            obtain ⟨rfl, -, -, hwrite⟩ := h.of_descriptor? hway hp'
            exact absurd ⟨hwrite, hread⟩ hopen

theorem served_receive (h : x.Over p) (way : Way) :
    ∃ q, (x.step (.receive way)).2 = x.withPipe q ∧ Served p (x.entry (.receive way)) q := by
  by_cases hopen : Request.Possible p (.receive way)
  · obtain ⟨rfl, hread⟩ := hopen
    rw [entry, step, drawn, Option.bind_some, h.descriptor? .read hread]
    simp only [Option.map_some, receive]
    by_cases hnone : p.buffered = []
    · rw [Pipes.read_nil h hread hnone (by decide)]
      obtain ⟨buffered, _, writeOpen⟩ := p
      obtain rfl : buffered = [] := hnone
      cases writeOpen with
      | true => exact ⟨_, h.withPipe_self.symm, .wouldBlock rfl rfl⟩
      | false => exact ⟨_, h.withPipe_self.symm, .short (Nat.succ_pos _) fun _ => rfl⟩
    · rw [Pipes.read_eq h hread hnone]
      by_cases hlength : messageSize ≤ p.buffered.length
      · simp only [List.length_take_of_le hlength, if_true]
        exact ⟨_, rfl, .received hlength⟩
      · have hshort : p.buffered.length < messageSize := Nat.lt_of_not_le hlength
        simp only [List.take_of_length_le hshort.le, List.drop_eq_nil_of_le hshort.le,
          if_neg hshort.ne]
        exact ⟨_, rfl, .short hshort fun h => absurd h hnone⟩
  · rw [entry, step, drawn]
    cases hway : way.bind x.descriptor? with
    | none => exact ⟨p, h.withPipe_self.symm, .failed hopen rfl⟩
    | some d =>
        simp only [Option.map_some, receive]
        cases hread : x.pipes.read d messageSize with
        | error e => exact ⟨p, h.withPipe_self.symm, .failed hopen rfl⟩
        | ok outcome =>
            obtain ⟨p', hp', -⟩ := Pipes.read_ok hread
            obtain ⟨rfl, -, rfl, hend⟩ := h.of_descriptor? hway hp'
            exact absurd ⟨rfl, hend⟩ hopen

theorem served (h : x.Over p) (r : Request) :
    ∃ q, (x.step r).2 = x.withPipe q ∧ Served p (x.entry r) q := by
  cases r with
  | send value way => exact h.served_send value way
  | receive way => exact h.served_receive way
  | write bytes => exact h.served_write bytes
  | close side =>
      refine ⟨p.close side, ?_, .closed side⟩
      rw [step, Pipes.close_eq h]
      rfl

theorem next (h : x.Over p) (r : Request) :
    ∃ q, (x.step r).2.Over q ∧ Served p (x.entry r) q := by
  obtain ⟨q, hstep, hserved⟩ := h.served r
  rw [hstep]
  exact ⟨q, h.withPipe q, hserved⟩

end Over

namespace Served

theorem conserves (h : Served p e q) : e.drawn ++ q.buffered = p.buffered ++ e.put := by
  cases h with
  | sent value => rfl
  | written bytes => exact congrArg (p.buffered ++ ·) (List.take_length).symm
  | received _ => simp [Entry.put]
  | short _ _ => rfl
  | wouldBlock _ _ => exact (List.append_nil _).symm
  | closed side => cases side <;> exact (List.append_nil _).symm
  | failed _ ha =>
      rw [(Entry.of_fails ha).1, List.append_nil]
      rfl

theorem isOpen_iff (h : Served p e q) (side : Side) :
    q.isOpen side = true ↔ p.isOpen side = true ∧ e.request ≠ .close side := by
  cases h with
  | closed shut => cases shut <;> cases side <;> simp [Pipe.close, Pipe.isOpen]
  | @failed r a hr _ =>
      have hne : r ≠ .close side := by
        rintro rfl
        exact hr trivial
      simp [hne]
  | _ => cases side <;> simp [Pipe.isOpen]

/-- A request that failed left the pipe as it was. -/
theorem unchanged (h : Served p e q) (hfails : e.answer.fails = true) : q = p := by
  cases h with
  | wouldBlock _ _ => rfl
  | failed _ _ => rfl
  | _ => cases hfails

/-- What a read from an open end gets, says and leaves. -/
theorem of_receive (h : Served p e q) (he : e.request = .receive (some .read))
    (hopen : p.readOpen = true) :
    e.drawn = p.buffered.take messageSize ∧ q.buffered = p.buffered.drop messageSize
      ∧ e.answer = .received (
        if messageSize ≤ p.buffered.length then .ok (decode (p.buffered.take messageSize))
        else if p.buffered ≠ [] then .error (.short p.buffered.length)
        else if p.writeOpen then .error (.system .wouldBlock)
        else .error (.short 0)) := by
  cases h with
  | received h => exact ⟨rfl, rfl, by rw [if_pos h]⟩
  | short h hend =>
      refine ⟨(List.take_of_length_le h.le).symm, (List.drop_eq_nil_of_le h.le).symm, ?_⟩
      rw [if_neg h.not_ge]
      by_cases hnone : p.buffered = []
      · simp [hnone, hend hnone]
      · rw [if_pos hnone]
  | wouldBlock hnone hwrite => simp [hnone, hwrite, messageSize]
  | failed hr _ =>
      obtain rfl := he
      exact absurd ⟨rfl, hopen⟩ hr
  | _ => cases he

/-- In a pipe that holds messages, and that nothing else is written to, messages move up as a
whole. -/
theorem messages {values : List Int32} (h : Served p e q)
    (hp : p.buffered = values.flatMap encode)
    (hwrite : ∀ bytes, e.request = .write bytes → e.put = []) :
    (∃ left, q.buffered = left.flatMap encode
        ∧ values ++ e.sent?.toList = e.received?.toList ++ left)
      ∧ ∀ count, e.answer = .received (.error (.short count)) → count = 0 := by
  cases h with
  | sent value =>
      refine ⟨⟨values ++ [value], ?_, rfl⟩, nofun⟩
      simp [hp]
  | written bytes =>
      have hnone : bytes = [] := List.take_length.symm.trans (hwrite bytes rfl)
      refine ⟨⟨values, ?_, List.append_nil _⟩, nofun⟩
      simp [hp, hnone]
  | received h =>
      cases values with
      | nil => simp [hp, messageSize] at h
      | cons value values =>
          rw [List.flatMap_cons] at hp
          refine ⟨⟨values, ?_, ?_⟩, nofun⟩
          · rw [hp]
            exact List.drop_left' (encode_length _)
          · rw [hp, List.take_left' (encode_length _), decode_encode]
            exact List.append_nil _
  | short h hend =>
      cases values with
      | nil =>
          refine ⟨⟨[], rfl, rfl⟩, ?_⟩
          rintro count ⟨⟩
          simp [hp]
      | cons value values =>
          rw [hp, List.flatMap_cons, List.length_append, encode_length] at h
          omega
  | wouldBlock _ _ => exact ⟨⟨values, hp, List.append_nil _⟩, nofun⟩
  | closed side => cases side <;> exact ⟨⟨values, hp, List.append_nil _⟩, nofun⟩
  | @failed r a _ ha =>
      obtain ⟨-, hsent, hreceived⟩ := Entry.of_fails (e := ⟨r, a, []⟩) ha
      refine ⟨⟨values, hp, ?_⟩, ?_⟩
      · rw [hsent, hreceived]
        exact List.append_nil _
      · rintro count rfl
        cases ha

end Served

end Step

/-! ## Requests in a row -/

section Run

variable {x : Exchange} {p : Pipe}

theorem Over.conserves (h : x.Over p) (requests : List Request) :
    ∃ q, (x.after requests).Over q
      ∧ (x.transcript requests).flatMap Entry.drawn ++ q.buffered =
        p.buffered ++ (x.transcript requests).flatMap Entry.put
      ∧ ∀ side, q.isOpen side = true ↔ p.isOpen side = true ∧ .close side ∉ requests := by
  induction requests generalizing x p with
  | nil => exact ⟨p, h, by simp [transcript], by simp⟩
  | cons r requests ih =>
      obtain ⟨q, hq, hserved⟩ := h.next r
      obtain ⟨last, hlast, hbytes, hopen⟩ := ih hq
      refine ⟨last, hlast, ?_, fun side => ?_⟩
      · rw [transcript, List.flatMap_cons, List.flatMap_cons, List.append_assoc, hbytes,
          ← List.append_assoc, hserved.conserves, List.append_assoc]
      · rw [hopen, hserved.isOpen_iff, List.mem_cons, not_or, and_assoc, ne_comm]
        rfl

theorem Over.messages (h : x.Over p) (values : List Int32)
    (hp : p.buffered = values.flatMap encode) {requests : List Request}
    (hwrite : ∀ e ∈ x.transcript requests, ∀ bytes, e.request = .write bytes → e.put = []) :
    (∃ left, values ++ (x.transcript requests).filterMap Entry.sent? =
        (x.transcript requests).filterMap Entry.received? ++ left)
      ∧ ∀ e ∈ x.transcript requests, ∀ count,
        e.answer = .received (.error (.short count)) → count = 0 := by
  induction requests generalizing x p values with
  | nil => exact ⟨⟨values, List.append_nil _⟩, nofun⟩
  | cons r requests ih =>
      obtain ⟨q, hq, hserved⟩ := h.next r
      rw [transcript, List.forall_mem_cons] at hwrite
      obtain ⟨⟨left, hbuffered, hfirst⟩, hshort⟩ := hserved.messages hp hwrite.1
      obtain ⟨⟨last, hrest⟩, hshorts⟩ := ih hq left hbuffered hwrite.2
      rw [transcript, List.forall_mem_cons]
      refine ⟨⟨last, ?_⟩, hshort, hshorts⟩
      simp only [List.filterMap_eq_flatMap_toList, List.flatMap_cons] at hrest ⊢
      rw [← List.append_assoc, hfirst, List.append_assoc, hrest, List.append_assoc]

/-- What happens to bytes in an exchange over a new pipe, after any requests. What was read,
followed by what is still in the pipe, is what was written. An end is open until it is closed. A
read from an open end gets the first bytes, up to the size of a message, and tells what they are.
A request that fails changes nothing, and none to write fails while both ends are open. If no
bytes were written but messages, the messages that were received are the first ones that were
sent, and no message was cut short. -/
theorem first_in_first_out (requests : List Request) :
    let x := start.after requests
    let entries := start.transcript requests
    entries.flatMap Entry.drawn ++ x.buffered = entries.flatMap Entry.put
      ∧ (∀ side, x.isOpen side = true ↔ .close side ∉ requests)
      ∧ (x.isOpen .read = true →
        x.drawn (.receive (some .read)) = x.buffered.take messageSize
          ∧ (x.step (.receive (some .read))).2.buffered = x.buffered.drop messageSize
          ∧ (x.step (.receive (some .read))).1 = .received (
            if messageSize ≤ x.buffered.length then .ok (decode (x.buffered.take messageSize))
            else if x.buffered ≠ [] then .error (.short x.buffered.length)
            else if x.isOpen .write then .error (.system .wouldBlock)
            else .error (.short 0)))
      ∧ (∀ r, (x.step r).1.fails = true → (x.step r).2 = x)
      ∧ (x.isOpen .read = true → x.isOpen .write = true →
        (∀ value, (x.step (.send value (some .write))).1 = .sent (.ok ()))
          ∧ ∀ bytes, (x.step (.write bytes)).1 = .written (.ok bytes.length))
      ∧ ((∀ e ∈ entries, ∀ bytes, e.request = .write bytes → e.put = []) →
        entries.filterMap Entry.received? <+: entries.filterMap Entry.sent?
          ∧ ∀ e ∈ entries, ∀ count,
            e.answer = .received (.error (.short count)) → count = 0) := by
  intro x entries
  obtain ⟨p, hp, hbytes, hopen⟩ := Over.of_start.conserves requests
  refine ⟨?_, ?_, ?_, ?_, ?_, ?_⟩
  · rw [hp.buffered]
    exact hbytes
  · intro side
    rw [hp.isOpen, hopen]
    cases side <;> simp [Pipe.isOpen]
  · intro hread
    obtain ⟨q, hq, hserved⟩ := hp.next (.receive (some .read))
    obtain ⟨hdrawn, hleft, hanswer⟩ :=
      hserved.of_receive rfl ((hp.isOpen .read).symm.trans hread)
    rw [hq.buffered, hp.buffered, hp.isOpen]
    exact ⟨hdrawn, hleft, hanswer⟩
  · intro r hfails
    obtain ⟨q, hstep, hserved⟩ := hp.served r
    rw [hstep, hserved.unchanged hfails, hp.withPipe_self]
  · intro hread hwrite
    rw [hp.isOpen] at hread hwrite
    refine ⟨fun value => ?_, fun bytes => ?_⟩
    · rw [hp.step_send hread hwrite]
    · rw [hp.step_write hwrite (.inl hread)]
  · intro hnone
    obtain ⟨⟨left, hsent⟩, hshort⟩ := Over.of_start.messages [] rfl hnone
    exact ⟨⟨left, hsent.symm⟩, hshort⟩

/-- Two messages, one of them below zero and one that cannot be sent, and a read from the wrong
end. -/
def twoMessages : List Request :=
  [.send (-2) (some .write), .send 7 none, .receive (some .write), .send 300 (some .write),
    .receive (some .read)]

/-- A message and the half of one, of which the message is read and the write end is closed. -/
def halfMessage : List Request :=
  [.send (-2) (some .write), .write [7, 0], .receive (some .read), .close .write]

/-- The half of a message is read as such, and after it nothing can be sent. Messages come out as
they went in. -/
theorem first_in_first_out_halfMessage :
    let x := start.after halfMessage
    (x.step (.receive (some .read))).1 = .received (.error (.short 2))
      ∧ (x.step (.send 1 (some .write))).2 = x
      ∧ ((start.after twoMessages).step (.send 1 (some .write))).1 = .sent (.ok ())
      ∧ [-2] <+: (start.transcript twoMessages).filterMap Entry.sent? := by
  have hhalf := first_in_first_out halfMessage
  have htwo := first_in_first_out twoMessages
  refine ⟨(hhalf.2.2.1 rfl).2.2, hhalf.2.2.2.1 _ rfl, (htwo.2.2.2.2.1 rfl rfl).1 1, ?_⟩
  refine (htwo.2.2.2.2.2 ?_).1
  simp [twoMessages, transcript, entry]

end Run

end Exchange

end GadgetModes.Relay
