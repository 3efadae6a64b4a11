/-!
# Signed integers of 64 bits as text

`readSigned64` accepts an optional single sign and then ASCII digits, at least one,
whose value fits a signed word of 64 bits. Nothing else is a number: no blanks, no
separators, no other base.
-/

namespace GadgetModes.Text

def digitValue? (c : Char) : Option Nat :=
  if '0' ≤ c ∧ c ≤ '9' then some (c.toNat - '0'.toNat) else none

/-- The value of a text of ASCII digits in base ten; an empty text has none. -/
def readDigits (cs : List Char) : Option Nat :=
  if cs.isEmpty then none
  else cs.foldlM (fun acc c => (digitValue? c).map (acc * 10 + ·)) 0

/-- An optional sign before digits. -/
def readSigned : List Char → Option Int
  | '+' :: cs => (readDigits cs).map Int.ofNat
  | '-' :: cs => (readDigits cs).map fun n => -Int.ofNat n
  | cs => (readDigits cs).map Int.ofNat

/-- Two to the power of 63. -/
def signedLimit64 : Int := 9223372036854775808

/-- The values of a signed word of 64 bits. -/
def fitsSigned64 (i : Int) : Bool :=
  -signedLimit64 ≤ i && i < signedLimit64

/-- A signed integer of 64 bits, written in base ten. -/
def readSigned64 (cs : List Char) : Option Int :=
  (readSigned cs).filter fitsSigned64

end GadgetModes.Text
