import GadgetModes.Decimal.Shortest
import GadgetModes.Text.Quoted

/-!
# TOML values

A value is a scalar, an array or a table. Tables keep their keys in the order in which
they were defined. A table remembers how it came about, because that decides what may
still be added to it: a table between braces is closed, one under a header takes no keys
from elsewhere, and one that was only mentioned may still get a header.
-/

namespace GadgetModes.Toml

open GadgetModes.Decimal GadgetModes.Text

/-- How a table came about. -/
inductive Origin where
  /-- It was written between braces. -/
  | inline
  /-- It has a header of its own. -/
  | header
  /-- It is on the path of a header. -/
  | implied
  /-- It is on the path of a dotted key. -/
  | dotted
deriving DecidableEq

/-- A value. A date or a time is kept as it was written. -/
inductive Value where
  | string (text : String)
  | integer (n : Int)
  | float (x : Binary64)
  | boolean (b : Bool)
  | moment (text : String)
  | array (items : List Value)
  | table (origin : Origin) (entries : List (String × Value))
  /-- The tables under headers in double brackets; there is a last one. -/
  | tables (earlier : List (List (String × Value))) (last : List (String × Value))

/-- The entries of a table in order. -/
abbrev Table := List (String × Value)

/-- The items of an array, whichever way it was written. -/
def Value.items? : Value → Option (List Value)
  | .array items => some items
  | .tables earlier last => some ((earlier ++ [last]).map (.table .header))
  | _ => none

/-- A value as it is named in a message about its type. -/
def Value.shown : Value → String
  | .string text => "string " ++ quoted text
  | .integer n => s!"integer \x60{n}\x60"
  | .float x => "floating point \x60" ++ x.text ++ "\x60"
  | .boolean b => "boolean \x60" ++ (if b then "true" else "false") ++ "\x60"
  | .array _ | .tables .. => "sequence"
  | .table .. | .moment _ => "map"

/-- A key with the tables that it goes through. -/
structure Key where
  parents : List String
  name : String
deriving DecidableEq

def Key.path (k : Key) : List String :=
  k.parents ++ [k.name]

namespace Table

def get? (t : Table) (key : String) : Option Value :=
  (t.find? (·.1 = key)).map (·.2)

/-- Gives a key a value, in its place or at the end. -/
def put (t : Table) (key : String) (v : Value) : Table :=
  if t.any (·.1 = key) then t.map fun e => if e.1 = key then (key, v) else e
  else t ++ [(key, v)]

def erase (t : Table) (key : String) : Table :=
  t.filter (·.1 ≠ key)

/--
Changes the table that a path leads to. Tables that are missing are made: by a dotted key
or by a header. A path goes on in the last of several tables. It cannot enter what is not
a table or is closed, and a dotted key cannot enter what has a header of its own.
-/
def descend (dotted : Bool) (change : Origin → Table → Option Table) :
    List String → Origin → Table → Option Table
  | [], origin, t => change origin t
  | key :: path, _, t =>
    match get? t key with
    | none =>
      let made := if dotted then .dotted else .implied
      (descend dotted change path made []).map fun u => t.put key (.table made u)
    | some (.table origin u) =>
      if origin = .inline || (dotted && origin = .header) then none
      else (descend dotted change path origin u).map fun u => t.put key (.table origin u)
    | some (.tables earlier last) =>
      (descend dotted change path .header last).map fun u => t.put key (.tables earlier u)
    | some _ => none

/-- Defines a key. It must be new, and a dotted one must be in a table that dotted keys
made. -/
def define (t : Table) (key : Key) (v : Value) : Option Table :=
  t.descend true (fun origin u =>
    if (!key.parents.isEmpty && origin ≠ .dotted) || (u.get? key.name).isSome then none
    else some (u ++ [(key.name, v)])) key.parents .header

/-- Opens the table under a header. It may have been on the path of a header before; then
it goes to the end of the table that it is in. -/
def openTable (t : Table) (key : Key) : Option Table :=
  t.descend false (fun _ u =>
    match u.get? key.name with
    | none => some (u ++ [(key.name, .table .header [])])
    | some (.table .implied w) => some (u.erase key.name ++ [(key.name, .table .header w)])
    | some _ => none) key.parents .header

/-- Opens one more of the tables under headers in double brackets. -/
def openNext (t : Table) (key : Key) : Option Table :=
  t.descend false (fun _ u =>
    match u.get? key.name with
    | none => some (u ++ [(key.name, .tables [] [])])
    | some (.tables earlier last) => some (u.put key.name (.tables (earlier ++ [last]) []))
    | some _ => none) key.parents .header

end Table

end GadgetModes.Toml
