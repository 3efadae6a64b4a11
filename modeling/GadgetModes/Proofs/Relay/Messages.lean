import Mathlib
import GadgetModes.Host.Signal
import GadgetModes.Proofs.Host.Pipes
import GadgetModes.Relay.Message

/-!
# Messages in a row

Decoding undoes encoding (`decode_encode`) and the other way round (`encode_decode`), and
bytes that were put together from messages fall apart into these messages again
(`messagesOf_wire`). `signalsOf` are the signals that the bytes of a pipe stand for, and
`wire` goes the other way.

What is received from a pipe depends on the bytes in it: a message in front of others
(`receive_encode`), or less than a message (`receive_short`).
-/

namespace GadgetModes.Relay

/-! ## One message -/

@[simp] theorem encode_length (value : Int32) : (encode value).length = messageSize := rfl

theorem encode_ne_nil (value : Int32) : encode value ≠ [] := List.cons_ne_nil _ _

theorem littleEndian_encode (value : Int32) :
    littleEndian (encode value) = value.toUInt32.toNat := by
  have hlt : value.toUInt32.toNat < 4294967296 := value.toUInt32.toNat_lt
  simp only [encode, littleEndian, UInt8.toNat_ofNat']
  omega

theorem decode_encode (value : Int32) : decode (encode value) = value := by
  rw [decode, littleEndian_encode, UInt32.ofNat_toNat]
  rfl

theorem encode_decode {bytes : List UInt8} (hlength : bytes.length = messageSize) :
    encode (decode bytes) = bytes := by
  obtain ⟨a, b, c, d, rfl⟩ : ∃ a b c d, bytes = [a, b, c, d] := by
    match bytes, hlength with
    | [a, b, c, d], _ => exact ⟨a, b, c, d, rfl⟩
  have ha := a.toNat_lt
  have hb := b.toNat_lt
  have hc := c.toNat_lt
  have hd := d.toNat_lt
  have hvalue : (decode [a, b, c, d]).toUInt32.toNat = littleEndian [a, b, c, d] := by
    rw [decode, UInt32.toUInt32_toInt32, UInt32.toNat_ofNat']
    simp only [littleEndian]
    omega
  rw [encode, hvalue]
  simp only [littleEndian, List.cons.injEq, ← UInt8.toNat_inj, UInt8.toNat_ofNat', and_true]
  omega

/-- Bytes that are enough for a message start with one. -/
theorem exists_encode_append {bytes : List UInt8} (hlength : messageSize ≤ bytes.length) :
    ∃ value rest, bytes = encode value ++ rest := by
  refine ⟨decode (bytes.take messageSize), bytes.drop messageSize, ?_⟩
  rw [encode_decode (List.length_take_of_le hlength), List.take_append_drop]

/-! ## One message over a pipe -/

section Transfer

variable {ps : Pipes} {n : Nat} {p : Pipe}

theorem receive_encode {value : Int32} {rest : List UInt8} (hpipe : ps.pipe? n = some p)
    (hopen : p.readOpen = true) (hbytes : p.buffered = encode value ++ rest) :
    receive ps ⟨n, .read⟩ = (.ok value, ps.set n { p with buffered := rest }) := by
  have htake : p.buffered.take messageSize = encode value := by
    rw [hbytes]
    exact List.take_left' (encode_length _)
  have hdrop : p.buffered.drop messageSize = rest := by
    rw [hbytes]
    exact List.drop_left' (encode_length _)
  rw [receive, Pipes.read_eq hpipe hopen (by simp [hbytes, encode])]
  simp only [htake, hdrop, encode_length, if_true, decode_encode]

theorem receive_short (hpipe : ps.pipe? n = some p) (hopen : p.readOpen = true)
    (hsome : p.buffered ≠ []) (hshort : p.buffered.length < messageSize) :
    receive ps ⟨n, .read⟩ =
      (.error (.short p.buffered.length), ps.set n { p with buffered := [] }) := by
  have htake : p.buffered.take messageSize = p.buffered := List.take_of_length_le (by omega)
  have hdrop : p.buffered.drop messageSize = [] := List.drop_eq_nil_of_le (by omega)
  rw [receive, Pipes.read_eq hpipe hopen hsome]
  simp only [htake, hdrop]
  rw [if_neg (by omega)]

theorem send_open (hpipe : ps.pipe? n = some p) (hread : p.readOpen = true)
    (hwrite : p.writeOpen = true) (value : Int32) :
    send ps (some ⟨n, .write⟩) value =
      .ok (ps.set n { p with buffered := p.buffered ++ encode value }) := by
  rw [send, Pipes.write_open hpipe hwrite (.inl hread)]
  rfl

/-- A message that was sent was written. -/
theorem write_of_send {ps' : Pipes} {way : Option Descriptor} {value : Int32}
    (h : send ps way value = .ok ps') :
    ∃ d, way = some d ∧ ps.write d (encode value) = .ok ps' := by
  cases way with
  | none => cases h
  | some d =>
      rw [send] at h
      cases hwrite : ps.write d (encode value) with
      | error e => rw [hwrite] at h; cases h
      | ok written =>
          rw [hwrite] at h
          obtain rfl := Except.ok.inj h
          exact ⟨d, rfl, hwrite⟩

end Transfer

/-! ## Bytes of several messages -/

/-- The messages that bytes hold, four bytes each; what is left over is none. -/
def messagesOf : List UInt8 → List Int32
  | a :: b :: c :: d :: rest => decode [a, b, c, d] :: messagesOf rest
  | _ => []

theorem messagesOf_encode_append (value : Int32) (rest : List UInt8) :
    messagesOf (encode value ++ rest) = value :: messagesOf rest := by
  rw [encode]
  simp only [List.cons_append, List.nil_append, messagesOf]
  exact congrArg (· :: messagesOf rest) (decode_encode value)

def numberOf (s : Signal) : Int32 :=
  Int32.ofNat s.number

theorem numberOf_eq (s : Signal) : numberOf s = Int32.ofNat s.number := rfl

theorem toInt_numberOf (s : Signal) : (numberOf s).toInt = s.number := by
  have hs := s.valid
  rw [numberOf, Int32.toInt_ofNat_of_lt (by omega)]

theorem ofNumber?_numberOf (s : Signal) : Signal.ofNumber? (numberOf s).toInt = some s := by
  have hs := s.valid
  rw [toInt_numberOf, Signal.ofNumber?, dif_pos (by omega)]
  simp

/-- The bytes of the messages for some signals. -/
def wire (signals : List Signal) : List UInt8 :=
  signals.flatMap fun s => encode (numberOf s)

@[simp] theorem wire_nil : wire [] = [] := rfl

theorem wire_cons (s : Signal) (signals : List Signal) :
    wire (s :: signals) = encode (numberOf s) ++ wire signals := rfl

theorem wire_append (signals more : List Signal) :
    wire (signals ++ more) = wire signals ++ wire more := by
  simp [wire]

theorem wire_length (signals : List Signal) :
    (wire signals).length = messageSize * signals.length := by
  induction signals with
  | nil => rfl
  | cons s signals ih =>
      rw [wire_cons, List.length_append, ih, encode_length, List.length_cons]
      ring

theorem messagesOf_wire (signals : List Signal) :
    messagesOf (wire signals) = signals.map numberOf := by
  induction signals with
  | nil => rfl
  | cons s signals ih =>
      rw [wire_cons, messagesOf_encode_append, ih, List.map_cons]

def signalsOf (bytes : List UInt8) : List Signal :=
  (messagesOf bytes).filterMap fun value => Signal.ofNumber? value.toInt

@[simp] theorem signalsOf_wire (signals : List Signal) : signalsOf (wire signals) = signals := by
  rw [signalsOf, messagesOf_wire, List.filterMap_map]
  simp [ofNumber?_numberOf]

end GadgetModes.Relay
