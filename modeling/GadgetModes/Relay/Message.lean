import GadgetModes.Host.Pipe

/-!
# Messages

A message of the relay is a signal number, four bytes with the least significant one
first, in two's complement. It goes over a pipe in one piece.
-/

namespace GadgetModes.Relay

/-- How many bytes a message has. -/
def messageSize : Nat := 4

/-- Why a message did not go over the pipe. -/
inductive TransferFault where
  | short (count : Nat)
  | system (errno : Errno)
deriving DecidableEq

def TransferFault.message : TransferFault → String
  | short count => s!"short transfer of {count} bytes"
  | system errno => "transfer failed: " ++ errno.named

/-- The four bytes of a message. -/
def encode (value : Int32) : List UInt8 :=
  let n := value.toUInt32.toNat
  [UInt8.ofNat n, UInt8.ofNat (n / 256), UInt8.ofNat (n / 65536), UInt8.ofNat (n / 16777216)]

/-- The value of a list of bytes, the least significant one first. -/
def littleEndian : List UInt8 → Nat
  | [] => 0
  | b :: bs => b.toNat + 256 * littleEndian bs

/-- The message that four bytes hold. -/
def decode (bytes : List UInt8) : Int32 :=
  (UInt32.ofNat (littleEndian bytes)).toInt32

/-- Writes a message to a descriptor; no descriptor is a bad one. -/
def send (ps : Pipes) (d : Option Descriptor) (value : Int32) : Except TransferFault Pipes :=
  match d with
  | none => .error (.system .badDescriptor)
  | some d => (ps.write d (encode value)).mapError .system

/-- Reads a message. Fewer bytes than a message has are a fault, and they are gone. -/
def receive (ps : Pipes) (d : Descriptor) : Except TransferFault Int32 × Pipes :=
  match ps.read d messageSize with
  | .error e => (.error (.system e), ps)
  | .ok (bytes, ps) =>
    if bytes.length = messageSize then (.ok (decode bytes), ps)
    else (.error (.short bytes.length), ps)

end GadgetModes.Relay
