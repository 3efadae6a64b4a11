import GadgetModes.Mode.Fields
import GadgetModes.Mode.Rejection

/-!
# The invariants of a mode

A record exists only for fields that satisfy four invariants. They are tried in a fixed
order, and the first that fails rejects the description.
-/

namespace GadgetModes.Mode

/-- What every record satisfies. -/
inductive Invariant where
  | identity
  | networkInterface
  | sysfsValue
  | sysfsReset
deriving DecidableEq

namespace Invariant

def name : Invariant → String
  | identity => "identity"
  | networkInterface => "network_interface"
  | sysfsValue => "sysfs_value"
  | sysfsReset => "sysfs_reset_value"

/-- The invariants in the order in which they are tried. -/
def all : List Invariant :=
  [identity, networkInterface, sysfsValue, sysfsReset]

def isGiven (text : Option String) : Bool :=
  text.any (· ≠ "")

/-- How fields break an invariant, if they do. A name is missed before a module. -/
def broken? : Invariant → Fields → Option Rejection
  | identity, f =>
    if !isGiven f.name then some (.missingField "mode" "name")
    else if !isGiven f.module then some (.missingField "mode" "module")
    else none
  | networkInterface, f =>
    if f.network && f.networkInterface.isNone then some .networkWithoutInterface else none
  | sysfsValue, f =>
    if f.sysfsPath.isSome && f.sysfsValue.isNone then some .sysfsValueMissing else none
  | sysfsReset, f =>
    if f.sysfsResetValue.isSome && f.sysfsPath.isNone then some .sysfsResetWithoutPath
    else none

end Invariant

/-- The first invariant that fields break, with the rejection it gives. -/
def Fields.violation? (f : Fields) : Option (Invariant × Rejection) :=
  Invariant.all.findSome? fun i => (i.broken? f).map (i, ·)

end GadgetModes.Mode
