/-!
# Key files

A key file is a list of items in the order of its text: a header opens a block, an
entry belongs to the block of the header before it. Blocks may share a name and keys
may repeat inside a block; what counts is the *first* block of a name and, inside it,
the *last* entry of a key. Entries before any header belong to no named block.
-/

namespace GadgetModes

inductive KeyFile.Item where
  | header (name : String)
  | entry (key value : String)
deriving DecidableEq

/-- The items of a key file in the order of its text. -/
structure KeyFile where
  items : List KeyFile.Item
deriving DecidableEq

namespace KeyFile

namespace Item

def pair? : Item → Option (String × String)
  | header _ => none
  | entry key value => some (key, value)

end Item

/-- The entries up to the next header. -/
def entriesOf : List Item → List (String × String)
  | .entry key value :: rest => (key, value) :: entriesOf rest
  | _ => []

/-- The entries of the first block with this name; a file without one has none. -/
def blockOf (name : String) : List Item → List (String × String)
  | [] => []
  | .header n :: rest => if n = name then entriesOf rest else blockOf name rest
  | .entry _ _ :: rest => blockOf name rest

/-- The entries of the first block with this name. -/
def block (file : KeyFile) (name : String) : List (String × String) :=
  blockOf name file.items

/-- The value of the last entry with this key in the first block with this name. -/
def value? (file : KeyFile) (name key : String) : Option String :=
  ((file.block name).filter (·.1 = key)).getLast?.map (·.2)

end KeyFile

end GadgetModes
