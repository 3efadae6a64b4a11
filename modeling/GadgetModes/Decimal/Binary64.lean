/-!
# Binary numbers of 64 bits

The numbers of the binary format with 53 bits of precision, each finite one as an integer
times a power of two, and the one that is nearest to a decimal number. All arithmetic is
exact, on natural numbers.
-/

namespace GadgetModes.Decimal

/-- A number of the binary format: `significand * 2 ^ exponent` with a sign, or none that
is finite. -/
inductive Binary64 where
  | finite (negative : Bool) (significand : Nat) (exponent : Int)
  | infinite (negative : Bool)
  | nan
deriving DecidableEq

namespace Binary64

/-- A significand is below two to this power. -/
def precision : Nat := 53

/-- The least exponent, that of the numbers around zero. -/
def minExponent : Int := -1074

/-- The largest exponent. -/
def maxExponent : Int := 971

/-- A quotient rounded to the nearest integer; a half goes to the even neighbour. -/
def roundDiv (n d : Nat) : Nat :=
  let q := n / d
  let r := n % d
  if 2 * r < d then q
  else if d < 2 * r then q + 1
  else q + q % 2

/-- The quotient `n / d` divided by two to some power, as a quotient again. -/
def scale (n d : Nat) (e : Int) : Nat × Nat :=
  (n * Nat.pow 2 (-e).toNat, d * Nat.pow 2 e.toNat)

/-- The exponent that gives a positive quotient a significand of full length, or the least
exponent. -/
def exponentOf (n d : Nat) : Int :=
  let high : Int := (Nat.log2 n : Int) - Nat.log2 d - (precision - 1)
  let (n', d') := scale n d high
  max minExponent (if d' * Nat.pow 2 (precision - 1) ≤ n' then high else high - 1)

/-- The number nearest to a quotient. -/
def ofQuotient (negative : Bool) (n d : Nat) : Binary64 :=
  if n = 0 then .finite negative 0 minExponent
  else
    let e := exponentOf n d
    let (n', d') := scale n d e
    let m := roundDiv n' d'
    let (m, e) := if m = Nat.pow 2 precision then (Nat.pow 2 (precision - 1), e + 1) else (m, e)
    if maxExponent < e then .infinite negative else .finite negative m e

/-- Numbers of this many digits before the point are beyond the finite ones, and with as
many zeros after the point they are nearer to zero than to any other. -/
def digitLimit : Int := 330

/-- The number nearest to `digits * 10 ^ exponent`. -/
def ofDecimal (negative : Bool) (digits : Nat) (exponent : Int) : Binary64 :=
  let size : Int := exponent + (Nat.toDigits 10 digits).length
  if digits = 0 || size < -digitLimit then .finite negative 0 minExponent
  else if digitLimit < size then .infinite negative
  else ofQuotient negative (digits * Nat.pow 10 exponent.toNat)
    (Nat.pow 10 (-exponent).toNat)

end Binary64

end GadgetModes.Decimal
