import GadgetModes.Host.Errno

/-!
# Faults of input and output

Why bytes or text could not be had: the system refused, the path cannot be handed to
the system at all, or the bytes are no text.
-/

namespace GadgetModes

/-- Why reading failed. -/
inductive IoFault where
  | system (errno : Errno)
  | nulInPath
  | notUtf8
  | other (text : String)
deriving DecidableEq

def IoFault.message : IoFault → String
  | system e => e.description ++ s!" (os error {e.number})"
  | nulInPath => "file name contained an unexpected NUL byte"
  | notUtf8 => "stream did not contain valid UTF-8"
  | other text => text

end GadgetModes
