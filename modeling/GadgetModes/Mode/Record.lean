import GadgetModes.Mode.Invariant

/-!
# Mode records

A record is a mode whose fields satisfy the invariants, with the file it comes from and
the network configuration that was applied for it. All but the latter is fixed once the
record is built.
-/

namespace GadgetModes.Mode

/-- The network configuration that was applied for a mode. -/
structure NetworkCache where
  ip : Option String := none
  interface : Option String := none
  gateway : Option String := none
  natInterface : Option String := none
  netmask : Option String := none
deriving DecidableEq

/-- Nothing was applied; an empty text counts as something. -/
def NetworkCache.isEmpty (c : NetworkCache) : Bool :=
  c = {}

/-- A mode that can be used. -/
structure Record where
  source : String
  fields : Fields
  sound : fields.violation? = none
  cache : NetworkCache := {}
deriving DecidableEq

namespace Record

/-- Builds a record with an empty cache, or says which invariant the fields break
first. -/
def ofFields (source : String) (fields : Fields) : Except Rejection Record :=
  match h : fields.violation? with
  | some (_, rejection) => .error rejection
  | none => .ok { source, fields, sound := h }

/-! ## What a record shows -/

/-- The name that the mode is known by. -/
def name (r : Record) : String :=
  r.fields.name.getD ""

/-- The kernel module or gadget functions behind the mode. -/
def module (r : Record) : String :=
  r.fields.module.getD ""

def appsync (r : Record) : Bool := r.fields.appsync
def massStorage (r : Record) : Bool := r.fields.massStorage
def network (r : Record) : Bool := r.fields.network
def networkInterface (r : Record) : Option String := r.fields.networkInterface
def sysfsPath (r : Record) : Option String := r.fields.sysfsPath
def sysfsValue (r : Record) : Option String := r.fields.sysfsValue
def sysfsResetValue (r : Record) : Option String := r.fields.sysfsResetValue

/-- The further writes that have a path, with their slots numbered from one. -/
def extraWrites (r : Record) : List (Nat × String × Option String) :=
  r.fields.extraSysfs.toList.zipIdx.filterMap fun (write, i) =>
    write.path.map fun path => (i + 1, path, write.value)

def idProduct (r : Record) : Option String := r.fields.idProduct
def idVendorOverride (r : Record) : Option String := r.fields.idVendorOverride
def nat (r : Record) : Bool := r.fields.nat
def dhcpServer (r : Record) : Bool := r.fields.dhcpServer
def tetheringTechnology (r : Record) : Option String := r.fields.tetheringTechnology

/-! ## Instances -/

/-- Another instance of the mode, with the network configuration as it is now. -/
def copy (r : Record) : Record where
  source := r.source
  fields := r.fields
  sound := r.sound
  cache := r.cache

@[simp] theorem copy_eq (r : Record) : r.copy = r := rfl

@[simp] theorem map_copy (r? : Option Record) : r?.map copy = r? := by
  cases r? <;> rfl

/-- Changes the applied network configuration. -/
def updateCache (f : NetworkCache → NetworkCache) (r : Record) : Record :=
  { r with cache := f r.cache }

/-- Forgets the applied network configuration. -/
def clearCache (r : Record) : Record :=
  r.updateCache fun _ => {}

end Record

end GadgetModes.Mode
