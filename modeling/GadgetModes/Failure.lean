import GadgetModes.FileSystem.Fault

/-!
# Failures of the daemon

What an operation of the daemon fails with. A mode file that is rejected is no failure:
it is logged and left out.
-/

namespace GadgetModes

/-- What an operation of the daemon fails with. -/
inductive Failure where
  | io (fault : IoFault)
  | config (text : String)
  | modeFile (path reason : String)
  | signal (text : String)
  | eventLoop (text : String)
  | system (errno : Errno)
  | internal (text : String)
deriving DecidableEq

def Failure.message : Failure → String
  | io fault => "IO error: " ++ fault.message
  | config text => "Configuration error: " ++ text
  | modeFile path reason => "Mode file " ++ path ++ ": " ++ reason
  | signal text => "Signal relay error: " ++ text
  | eventLoop text => "Event loop error: " ++ text
  | system e => "System call failed: " ++ e.named
  | internal text => "Internal error: " ++ text

end GadgetModes
