import GadgetModes.FileSystem.Fault
import GadgetModes.KeyFile.Reader

/-!
# Rejections

Why a mode description gives no record. Each rejection names the key at fault, and has
a wording.
-/

namespace GadgetModes.Mode

/-- Why no key file could be had. -/
inductive Unreadable where
  | io (fault : IoFault)
  | malformed (fault : KeyFile.Fault)
deriving DecidableEq

/-- The wording of what made a file unreadable. -/
def Unreadable.reason : Unreadable → String
  | io fault => fault.message
  | malformed fault => fault.message

/-- Why a mode description is rejected. -/
inductive Rejection where
  | unreadable (cause : Unreadable)
  | missingField (block key : String)
  | networkWithoutInterface
  | sysfsValueMissing
  | sysfsResetWithoutPath
deriving DecidableEq

namespace Rejection

/-- The key at fault; a file that is no key file stands for all its keys. -/
def field : Rejection → String
  | unreadable _ => "<file>"
  | missingField _ key => key
  | networkWithoutInterface => "network_interface"
  | sysfsValueMissing => "sysfs_value"
  | sysfsResetWithoutPath => "sysfs_path"

def message : Rejection → String
  | unreadable cause => "cannot load key file: " ++ cause.reason
  | missingField block key => s!"mandatory key [{block}] {key} is missing or empty"
  | networkWithoutInterface => "network is enabled but network_interface is not set"
  | sysfsValueMissing => "sysfs_path is set but sysfs_value is not"
  | sysfsResetWithoutPath => "sysfs_reset_value is set but sysfs_path is not"

end Rejection

end GadgetModes.Mode
