import GadgetModes.Text.Integer
import GadgetModes.Toml.Value

/-!
# TOML expressions

Expressions are values as they are written: numbers of any size, and tables between braces as
the list of their bindings. A reader has limits on them, for numbers as well as for how deep
they are nested and how many parts their keys have. An expression has no value if a key comes
twice in one of its tables. TOML knows no such limits; the usual ones are those of the reader in
version 0.8 of the `toml` library.
-/

namespace GadgetModes.Toml

open GadgetModes.Decimal GadgetModes.Text

/-! ## Numbers -/

/-- A number as it is written. -/
inductive Number where
  | integer (n : Int)
  | infinite (negative : Bool)
  | nan
  /-- It has a fraction or an exponent: digits, and the power of ten that they are multiplied
  by. -/
  | decimal (negative : Bool) (digits : Nat) (exponent : Int)
deriving DecidableEq

namespace Number

def value : Number → Value
  | integer n => .integer n
  | infinite negative => .float (.infinite negative)
  | nan => .float .nan
  | decimal negative digits exponent => .float (Binary64.ofDecimal negative digits exponent)

/-- Whether a number is among those that values are made of: integers of 64 bits, and others
unless they are too large. Below the least one there is minus infinity. -/
def fits : Number → Bool
  | integer n => fitsSigned64 n
  | decimal negative digits exponent =>
    Binary64.ofDecimal negative digits exponent ≠ .infinite false
  | _ => true

end Number

/-! ## Limits -/

/-- What a reader refuses, however well it is written. -/
structure Limits where
  /-- How deep arrays and tables may be nested. -/
  nesting : Nat
  /-- How many parts a key may have. -/
  parts : Nat
  /-- Which numbers it takes. -/
  holds : Number → Bool

def Limits.usual : Limits where
  nesting := 79
  parts := 79
  holds := Number.fits

/-! ## Expressions -/

inductive Expr where
  | string (text : String)
  | boolean (b : Bool)
  | moment (text : String)
  | number (n : Number)
  | array (items : List Expr)
  | table (bindings : List (Key × Expr))

def tableOf (bindings : List (Key × Value)) : Option Table :=
  bindings.foldlM (fun (t : Table) (k, v) => t.define k v) []

namespace Expr

mutual

def value? : Expr → Option Value
  | string text => some (.string text)
  | boolean b => some (.boolean b)
  | moment text => some (.moment text)
  | number n => some n.value
  | array items => (values? items).map .array
  | table bindings => (boundValues? bindings).bind fun bs => (tableOf bs).map (.table .inline)

def values? : List Expr → Option (List Value)
  | [] => some []
  | e :: es => do return (← value? e) :: (← values? es)

def boundValues? : List (Key × Expr) → Option (List (Key × Value))
  | [] => some []
  | (k, e) :: bs => do return (k, ← value? e) :: (← boundValues? bs)

end

end Expr

end GadgetModes.Toml
