import GadgetModes.Toml.Characters
import GadgetModes.Toml.Expr

/-!
# Scalars without quotes

A scalar without quotes goes as far as its characters do. As a whole it must be a truth
value, a date or a time, or a number. A date and a time may also have one blank between them.
-/

namespace GadgetModes.Toml

/-! ## Digits -/

/-- Digits of a class without the underscores between them. An underscore stands between
two digits. -/
def plainDigits? (isMember : Char → Bool) : List Char → Option (List Char)
  | [] => none
  | [c] => if isMember c then some [c] else none
  | c :: d :: rest =>
    if !isMember c then none
    else if d = '_' then (plainDigits? isMember rest).map (c :: ·)
    else (plainDigits? isMember (d :: rest)).map (c :: ·)

/-- Decimal digits, of which the first is zero only if it is the last as well. -/
def decimalDigits? (s : List Char) : Option (List Char) :=
  (plainDigits? isDigit s).filter fun digits =>
    digits.head? ≠ some '0' || digits.length = 1

def ofDigits (base : Nat) (digits : List Char) : Nat :=
  digits.foldl (fun n c => base * n + (digitValue? c).getD 0) 0

/-- Whether there is a minus sign, and what follows the sign. -/
def splitSign : List Char → Bool × List Char
  | c :: rest =>
    if c = '-' then (true, rest)
    else if c = '+' then (false, rest)
    else (false, c :: rest)
  | [] => (false, [])

/-! ## Integers -/

/-- Digits of the base that a letter after a zero stands for. -/
def basedDigits? (s : List Char) : Option Nat :=
  match s with
  | '0' :: 'x' :: rest =>
    (plainDigits? (fun c => (digitValue? c).isSome) rest).map (ofDigits 16)
  | '0' :: 'o' :: rest =>
    (plainDigits? (fun c => '0' ≤ c && c ≤ '7') rest).map (ofDigits 8)
  | '0' :: 'b' :: rest =>
    (plainDigits? (fun c => c = '0' || c = '1') rest).map (ofDigits 2)
  | _ => none

def integer? (s : List Char) : Option Int :=
  match basedDigits? s with
  | some n => some n
  | none =>
    let (negative, digits) := splitSign s
    (decimalDigits? digits).map fun digits =>
      let n : Int := ofDigits 10 digits
      if negative then -n else n

/-! ## Numbers with a fraction or an exponent -/

def isDigitOrMark (c : Char) : Bool :=
  isDigit c || c = '_'

/-- Reads an exponent with its letter. -/
def exponent? (s : List Char) : Option Int :=
  match s with
  | [] => none
  | c :: rest =>
    if c = 'e' || c = 'E' then
      let (negative, digits) := splitSign rest
      (plainDigits? isDigit digits).map fun digits =>
        let n : Int := ofDigits 10 digits
        if negative then -n else n
    else none

/-- Reads the digits of a number with a fraction, an exponent, or both: all digits, and the
power of ten that they are multiplied by. -/
def fraction? (s : List Char) : Option (List Char × Int) := do
  let whole ← decimalDigits? (s.takeWhile isDigitOrMark)
  match s.dropWhile isDigitOrMark with
  | '.' :: rest =>
    let part ← plainDigits? isDigit (rest.takeWhile isDigitOrMark)
    let after := rest.dropWhile isDigitOrMark
    let exponent ← if after.isEmpty then some 0 else exponent? after
    return (whole ++ part, exponent - part.length)
  | rest =>
    let exponent ← exponent? rest
    return (whole, exponent)

/-- Reads a number that is no integer. -/
def float? (s : List Char) : Option Number :=
  let (negative, body) := splitSign s
  if body = "inf".toList then some (.infinite negative)
  else if body = "nan".toList then some .nan
  else
    (fraction? body).map fun (digits, exponent) =>
      .decimal negative (ofDigits 10 digits) exponent

def number? (s : List Char) : Option Number :=
  match float? s with
  | some x => some x
  | none => (integer? s).map .integer

/-! ## Dates and times -/

/-- The number that two digits give, if it is between two bounds. -/
def pair? (lo hi : Nat) (a b : Char) : Option Nat :=
  if isDigit a && isDigit b then
    let n := ofDigits 10 [a, b]
    if lo ≤ n && n ≤ hi then some n else none
  else none

def monthDays (year month : Nat) : Nat :=
  if month = 2 then
    if year % 4 = 0 && (year % 100 ≠ 0 || year % 400 = 0) then 29 else 28
  else if month = 4 || month = 6 || month = 9 || month = 11 then 30
  else 31

/-- What follows a date. -/
def afterDate? : List Char → Option (List Char)
  | y₁ :: y₂ :: y₃ :: y₄ :: a :: m₁ :: m₂ :: b :: d₁ :: d₂ :: rest =>
    if [y₁, y₂, y₃, y₄].all isDigit && a = '-' && b = '-' then do
      let month ← pair? 1 12 m₁ m₂
      let _ ← pair? 1 (monthDays (ofDigits 10 [y₁, y₂, y₃, y₄]) month) d₁ d₂
      return rest
    else none
  | _ => none

/-- What follows the fraction of a second, if there is one. -/
def afterFraction : List Char → List Char
  | c :: d :: rest =>
    if c = '.' && isDigit d then rest.dropWhile isDigit else c :: d :: rest
  | s => s

/-- What follows a time. The last second of a minute may be a leap second. -/
def afterTime? : List Char → Option (List Char)
  | h₁ :: h₂ :: a :: m₁ :: m₂ :: b :: s₁ :: s₂ :: rest =>
    if a = ':' && b = ':' then do
      let _ ← pair? 0 23 h₁ h₂
      let _ ← pair? 0 59 m₁ m₂
      let _ ← pair? 0 60 s₁ s₂
      return afterFraction rest
    else none
  | _ => none

/-- Whether a text is an offset from universal time, or empty. -/
def isOffset : List Char → Bool
  | [] => true
  | [c] => c = 'Z' || c = 'z'
  | [sign, h₁, h₂, a, m₁, m₂] =>
    (sign = '+' || sign = '-') && a = ':' && (pair? 0 23 h₁ h₂).isSome
      && (pair? 0 59 m₁ m₂).isSome
  | _ => false

/-- Whether a text is a date, a time, or both with an offset or without. -/
def isMoment (s : List Char) : Bool :=
  match afterDate? s with
  | none => afterTime? s = some []
  | some [] => true
  | some (c :: rest) =>
    (c = 'T' || c = 't' || c = ' ') && (afterTime? rest).any isOffset

/-! ## Reading a scalar -/

/-- Whether a blank is followed by two digits and a colon, as in a time. -/
def startsTime : List Char → Bool
  | c :: h₁ :: h₂ :: a :: _ => c = ' ' && isDigit h₁ && isDigit h₂ && a = ':'
  | _ => false

/-- The characters of a scalar, and what follows them. -/
def cutScalar (s : List Char) : List Char × List Char :=
  let token := s.takeWhile isScalar
  let rest := s.dropWhile isScalar
  if afterDate? token = some [] && startsTime rest then
    (token ++ ' ' :: (rest.drop 1).takeWhile isScalar, (rest.drop 1).dropWhile isScalar)
  else (token, rest)

def scalar? (limits : Limits) (token : List Char) : Option Expr :=
  if token = "true".toList then some (.boolean true)
  else if token = "false".toList then some (.boolean false)
  else if isMoment token then some (.moment (String.ofList token))
  else ((number? token).filter limits.holds).map .number

end GadgetModes.Toml
