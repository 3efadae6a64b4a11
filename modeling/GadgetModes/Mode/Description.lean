import GadgetModes.KeyFile.Reader
import GadgetModes.Mode.Record
import GadgetModes.Text.Integer

/-!
# Mode descriptions

A mode description is a key file with the blocks `mode` and `options`. This module
names the keys and reads the fields off a key file: a text is the trimmed value, empty
meaning absent, and a flag is a value that is a 64-bit integer other than zero.
-/

namespace GadgetModes.Mode

open GadgetModes.Text

/-- How descriptions are read. -/
structure Options where
  /-- Whether the tethering technology is read. -/
  tethering : Bool := false
deriving DecidableEq

inductive Block where
  | mode
  | options
deriving DecidableEq

def Block.name : Block → String
  | mode => "mode"
  | options => "options"

namespace Description

/-- A text: the value without blanks around it, if anything is left. -/
def text? (file : KeyFile) (block : Block) (key : String) : Option String :=
  ((file.value? block.name key).map trimmed).filter (· ≠ "")

/-- Whether a value sets a flag: it is a 64-bit integer other than zero. -/
def isSet (value : String) : Bool :=
  (readSigned64 (trim value.toList)).any (· ≠ 0)

/-- A flag; it is off unless a value sets it. -/
def flag (file : KeyFile) (block : Block) (key : String) : Bool :=
  (file.value? block.name key).any isSet

/-- The key of a slot: the first has the bare name, the others end in their number. -/
def slotKey (base : String) (slot : Nat) : String :=
  if slot = 0 then base else base ++ toString (slot + 1)

def extraSysfs (file : KeyFile) : Vector ExtraWrite extraSlots :=
  Vector.ofFn fun slot =>
    { path := text? file .options (slotKey "android_extra_sysfs_path" slot)
      value := text? file .options (slotKey "android_extra_sysfs_value" slot) }

def fields (options : Options) (file : KeyFile) : Fields where
  name := text? file .mode "name"
  module := text? file .mode "module"
  appsync := flag file .mode "appsync"
  massStorage := flag file .mode "mass_storage"
  network := flag file .mode "network"
  networkInterface := text? file .mode "network_interface"
  sysfsPath := text? file .options "sysfs_path"
  sysfsValue := text? file .options "sysfs_value"
  sysfsResetValue := text? file .options "sysfs_reset_value"
  extraSysfs := extraSysfs file
  idProduct := text? file .options "idProduct"
  idVendorOverride := text? file .options "idVendorOverride"
  nat := flag file .options "nat"
  dhcpServer := flag file .options "dhcp_server"
  tetheringTechnology :=
    if options.tethering then text? file .options "connman_tethering" else none

/-- The fields that a text gives, if it is a key file. -/
def ofText (options : Options) (content : String) : Except Rejection Fields :=
  match KeyFile.read content with
  | .ok file => .ok (fields options file)
  | .error fault => .error (.unreadable (.malformed fault))

end Description

def Record.ofText (options : Options) (source content : String) : Except Rejection Record :=
  (Description.ofText options content).bind (Record.ofFields source)

end GadgetModes.Mode
