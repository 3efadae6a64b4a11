import GadgetModes.Log.Logged
import GadgetModes.Mode.Record
import GadgetModes.Text.Utf8

/-!
# Catalogs

A catalog holds the modes of one directory in the byte order of their names. Modes of
one name are all kept, in the order in which they were found; looking a name up gives
the first of them. The search halves the part of the catalog that is left.
-/

namespace GadgetModes

open GadgetModes.Log GadgetModes.Mode GadgetModes.Text

/-- The modes of one directory, sorted by name. -/
structure Catalog where
  modes : Array Record := #[]
  /-- Whether they come from the directory of diagnostic modes. -/
  diagnostic : Bool := false
deriving DecidableEq

namespace Catalog

/-- Whether a mode does not come after another in a catalog. -/
def nameLe (a b : Record) : Bool :=
  bytesLe a.name b.name

/-- The catalog of some modes; the sort is stable. -/
def ofRecords (records : List Record) (diagnostic : Bool) : Catalog where
  modes := (records.mergeSort nameLe).toArray
  diagnostic := diagnostic

/-- How many modes there are. -/
def size (c : Catalog) : Nat :=
  c.modes.size

/-- Whether there is no mode. -/
def isEmpty (c : Catalog) : Bool :=
  c.modes.isEmpty

/-- The names of the modes, in order. -/
def names (c : Catalog) : List String :=
  c.modes.toList.map (·.name)

/-- Between `lo` and `hi`, the first position whose mode is not before the point that is
looked for, when those before it all are. -/
def partitionPoint (before : Record → Bool) (modes : Array Record) (lo hi : Nat) : Nat :=
  if lo < hi then
    let mid := lo + (hi - lo) / 2
    if modes[mid]?.any before then partitionPoint before modes (mid + 1) hi
    else partitionPoint before modes lo mid
  else lo
termination_by hi - lo

def position? (c : Catalog) (name : String) : Option Nat :=
  let start := partitionPoint (fun m => bytesLt m.name name) c.modes 0 c.modes.size
  if c.modes[start]?.any (·.name = name) then some start else none

/-- The first mode with a name. -/
def lookup (c : Catalog) (name : String) : Option Record :=
  (c.position? name).bind fun i => c.modes[i]?

def contains (c : Catalog) (name : String) : Bool :=
  (c.lookup name).isSome

/-- A copy of the first mode with a name, for callers that need one of their own. -/
def duplicate (c : Catalog) (name : String) : Option Record :=
  (c.lookup name).map Record.copy

theorem duplicate_eq_lookup (c : Catalog) (name : String) : c.duplicate name = c.lookup name := by
  simp [duplicate]

/-- Changes the mode at a position. -/
def modify (c : Catalog) (i : Nat) (f : Record → Record) : Catalog :=
  { c with modes := c.modes.modify i f }

def release (c : Catalog) : Logged Unit :=
  Logged.report (.releasingCatalog c.size)

end Catalog

end GadgetModes
