/-!
# The fields of a mode

A mode of the USB gadget is described by fifteen fields. `Fields` holds what a
description says, before anything is checked: a text that was not given is `none`, a
flag that was not given is `false`.
-/

namespace GadgetModes.Mode

/-- How many writes to sysfs a mode may ask for besides its main one. -/
abbrev extraSlots : Nat := 4

/-- A further write to sysfs: where, and what. -/
structure ExtraWrite where
  path : Option String := none
  value : Option String := none
deriving DecidableEq

/-- What a mode description says. -/
structure Fields where
  name : Option String := none
  module : Option String := none
  appsync : Bool := false
  massStorage : Bool := false
  network : Bool := false
  networkInterface : Option String := none
  sysfsPath : Option String := none
  sysfsValue : Option String := none
  sysfsResetValue : Option String := none
  extraSysfs : Vector ExtraWrite extraSlots := Vector.replicate extraSlots {}
  idProduct : Option String := none
  idVendorOverride : Option String := none
  nat : Bool := false
  dhcpServer : Bool := false
  tetheringTechnology : Option String := none
deriving DecidableEq

end GadgetModes.Mode
