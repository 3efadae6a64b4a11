import GadgetModes.Config.Schema
import GadgetModes.FileSystem.Access
import GadgetModes.Log.Logged
import GadgetModes.Toml.Document

/-!
# Reading configurations

A configuration is read from the text of a TOML document, and the text from a file. A file
that is not there stands for the defaults; one that cannot be read is a failure.
-/

namespace GadgetModes.Config

open GadgetModes.Log

/-- Why a text is no configuration. -/
inductive Fault where
  | noDocument
  | wrongType (fault : TypeFault)

/-- What the wording of every fault starts with. -/
def faultHeading : String := "TOML parse error"

def Fault.message : Fault → String
  | noDocument => faultHeading
  | wrongType fault => faultHeading ++ ": " ++ fault.message

def ofText (text : String) : Except Fault Config :=
  match Toml.Document.read text with
  | none => .error .noDocument
  | some table => (ofTable table).mapError .wrongType

/-- Where the configuration is, unless another place is named. -/
def defaultPath : String := "/etc/usb-moded/usb-moded.toml"

def load (fs : FileSystem) (path : String) : Logged (Except Failure Config) := do
  match fs.text path with
  | .ok text =>
    return (ofText text).mapError fun fault =>
      .config ("Invalid " ++ path ++ ": " ++ fault.message)
  | .error (.system .noEntry) =>
    Logged.report (.noConfigFile path)
    return .ok {}
  | .error fault =>
    return .error (.config ("Failed to read " ++ path ++ ": " ++ fault.message))

end GadgetModes.Config
