/-!
# Poll flags

The conditions of a descriptor that a poll can ask for and report.
-/

namespace GadgetModes

/-- A set of conditions of a descriptor. -/
structure PollFlags where
  readable : Bool := false
  urgent : Bool := false
  writable : Bool := false
  error : Bool := false
  hangup : Bool := false
  invalid : Bool := false
deriving DecidableEq

namespace PollFlags

/-- No condition. -/
def none : PollFlags := {}

/-- The conditions of a set with their names, in a fixed order. -/
def named (f : PollFlags) : List (String × Bool) :=
  [("IN", f.readable), ("PRI", f.urgent), ("OUT", f.writable), ("ERR", f.error),
   ("HUP", f.hangup), ("NVAL", f.invalid)]

/-- The names of the conditions in a set. -/
def names (f : PollFlags) : List String :=
  f.named.filterMap fun (name, isSet) => if isSet then some name else Option.none

/-- The set of the conditions with these names; other names stand for nothing. -/
def ofNames (names : List String) : PollFlags where
  readable := names.contains "IN"
  urgent := names.contains "PRI"
  writable := names.contains "OUT"
  error := names.contains "ERR"
  hangup := names.contains "HUP"
  invalid := names.contains "NVAL"

/-- The conditions that two sets share. -/
def inter (f g : PollFlags) : PollFlags where
  readable := f.readable && g.readable
  urgent := f.urgent && g.urgent
  writable := f.writable && g.writable
  error := f.error && g.error
  hangup := f.hangup && g.hangup
  invalid := f.invalid && g.invalid

/-- Whether a set holds no condition. -/
def isEmpty (f : PollFlags) : Bool :=
  f = {}

/-- Whether two sets share a condition. -/
def meets (f g : PollFlags) : Bool :=
  !(f.inter g).isEmpty

/-- A set as it is shown in the log. -/
def shown (f : PollFlags) : String :=
  if f.isEmpty then "PollFlags(0x0)"
  else "PollFlags(" ++ " | ".intercalate (f.names.map ("POLL" ++ ·)) ++ ")"

end PollFlags

end GadgetModes
