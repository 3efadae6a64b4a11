import GadgetModes.Decimal.Binary64

/-!
# Shortest decimals

The shortest decimal that is nearer to a binary number than to all others. For one digit,
two digits, and so on, the two neighbours of the number on the grid of such decimals are
tried; the first grid where one of them reads back as the number gives the digits. Of two
the nearer is taken, and the upper one if both are as near.
-/

namespace GadgetModes.Decimal

/-- A decimal: `0.d₁d₂… * 10 ^ point`, with its digits as one number. -/
structure Digits where
  digits : Nat
  count : Nat
  point : Int
deriving DecidableEq

/-- A positive number with the bounds of the numbers that round to it, as numerators over
one denominator. -/
structure Bracket where
  low : Nat
  value : Nat
  high : Nat
  denominator : Nat
  /-- Whether the bounds themselves round to the number. -/
  closed : Bool

/-- The bracket of `significand * 2 ^ exponent`. -/
def Bracket.of (significand : Nat) (exponent : Int) : Bracket :=
  let up := Nat.pow 2 (exponent - 2).toNat
  let narrow := significand = Nat.pow 2 (Binary64.precision - 1)
    && decide (Binary64.minExponent < exponent)
  { low := (4 * significand - if narrow then 1 else 2) * up
    value := 4 * significand * up
    high := (4 * significand + 2) * up
    denominator := Nat.pow 2 (2 - exponent).toNat
    closed := significand % 2 = 0 }

namespace Bracket

/-- Where the point stands: the number is at least a tenth of `10 ^ point` and less than
that. -/
def point (b : Bracket) : Int :=
  if b.denominator ≤ b.value then (Nat.toDigits 10 (b.value / b.denominator)).length
  else -(((List.range 400).findIdx fun j => b.denominator ≤ b.value * Nat.pow 10 (j + 1)) : Nat)

/-- Whether `n / d` rounds to the number. -/
def holds (b : Bracket) (n d : Nat) : Bool :=
  if b.closed then b.low * d ≤ n * b.denominator && n * b.denominator ≤ b.high * d
  else b.low * d < n * b.denominator && n * b.denominator < b.high * d

/-- The digits of a decimal of this many digits that rounds to the number, if there is
one. -/
def digits? (b : Bracket) (point : Int) (count : Nat) : Option Nat :=
  let up := Nat.pow 10 (point - count).toNat
  let down := Nat.pow 10 (count - point).toNat
  let below := b.value * down / (b.denominator * up)
  let rest := b.value * down % (b.denominator * up)
  match b.holds (below * up) down, b.holds ((below + 1) * up) down with
  | true, true => some (if 2 * rest < b.denominator * up then below else below + 1)
  | true, false => some below
  | false, true => some (below + 1)
  | false, false => none

end Bracket

/-- How many digits always suffice. -/
def maxDigits : Nat := 17

/-- The shortest decimal of a positive number. -/
def shortest (significand : Nat) (exponent : Int) : Digits :=
  let b := Bracket.of significand exponent
  let point := b.point
  ((List.range maxDigits).findSome? fun i =>
    (b.digits? point (i + 1)).map fun digits =>
      if digits = Nat.pow 10 (i + 1) then ⟨1, 1, point + 1⟩ else ⟨digits, i + 1, point⟩).getD
    ⟨0, 1, 1⟩

/-- The digits of a decimal, as many as it has. -/
def Digits.text (d : Digits) : List Char :=
  let digits := Nat.toDigits 10 d.digits
  List.replicate (d.count - digits.length) '0' ++ digits

/-- A decimal without an exponent and with at least one digit on both sides of the
point. -/
def Digits.positional (d : Digits) : String :=
  let text := d.text
  String.ofList
    (if d.point ≤ 0 then '0' :: '.' :: (List.replicate (-d.point).toNat '0' ++ text)
    else if text.length ≤ d.point then
      text ++ List.replicate (d.point.toNat - text.length) '0' ++ ['.', '0']
    else text.take d.point.toNat ++ '.' :: text.drop d.point.toNat)

/-- A binary number as text: the shortest decimal without an exponent. -/
def Binary64.text : Binary64 → String
  | finite negative m e =>
    (if negative then "-" else "") ++ (if m = 0 then "0.0" else (shortest m e).positional)
  | infinite negative => if negative then "-inf" else "inf"
  | nan => "NaN"

end GadgetModes.Decimal
