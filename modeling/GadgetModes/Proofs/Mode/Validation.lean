import Mathlib.Data.Option.Basic
import GadgetModes.Mode.Read

/-!
# What a record requires

Five things are required of the fields of a mode, and checked in a fixed order. Fields that meet
all of them give a record that holds them as they are; others are rejected for the first thing
that is missing, and this is reported (`build_eq`).
-/

namespace GadgetModes.Mode

open GadgetModes.Log

/-! ## Requirements -/

inductive Requirement where
  | name
  | module
  | networkInterface
  | sysfsValue
  | sysfsPath

namespace Requirement

/-- A name and a module may not be empty; all other texts may. -/
def Met : Requirement → Fields → Prop
  | name, f => f.name ≠ none ∧ f.name ≠ some ""
  | module, f => f.module ≠ none ∧ f.module ≠ some ""
  | networkInterface, f => f.network = true → f.networkInterface ≠ none
  | sysfsValue, f => f.sysfsPath ≠ none → f.sysfsValue ≠ none
  | sysfsPath, f => f.sysfsResetValue ≠ none → f.sysfsPath ≠ none

instance (f : Fields) : (q : Requirement) → Decidable (q.Met f)
  | name => inferInstanceAs (Decidable (_ ∧ _))
  | module => inferInstanceAs (Decidable (_ ∧ _))
  | networkInterface => inferInstanceAs (Decidable (_ → _))
  | sysfsValue => inferInstanceAs (Decidable (_ → _))
  | sysfsPath => inferInstanceAs (Decidable (_ → _))

/-- The invariant that a requirement is part of. -/
def invariant : Requirement → Invariant
  | name | module => .identity
  | networkInterface => .networkInterface
  | sysfsValue => .sysfsValue
  | sysfsPath => .sysfsReset

def rejection : Requirement → Rejection
  | name => .missingField "mode" "name"
  | module => .missingField "mode" "module"
  | networkInterface => .networkWithoutInterface
  | sysfsValue => .sysfsValueMissing
  | sysfsPath => .sysfsResetWithoutPath

def key : Requirement → String
  | name => "name"
  | module => "module"
  | networkInterface => "network_interface"
  | sysfsValue => "sysfs_value"
  | sysfsPath => "sysfs_path"

theorem field_rejection (q : Requirement) : q.rejection.field = q.key := by
  cases q <;> rfl

/-- The requirements in the order in which they are checked. -/
def all : List Requirement :=
  [name, module, networkInterface, sysfsValue, sysfsPath]

theorem mem_all (q : Requirement) : q ∈ all := by
  cases q <;> simp [all]

def firstUnmet? (f : Fields) : Option Requirement :=
  all.find? fun q => ¬q.Met f

theorem firstUnmet?_eq_none_iff {f : Fields} :
    firstUnmet? f = none ↔ ∀ q : Requirement, q.Met f := by
  simp [firstUnmet?, mem_all]

theorem firstUnmet?_eq_some {f : Fields} {before after : List Requirement} {q : Requirement}
    (hall : all = before ++ q :: after) (hbefore : ∀ p ∈ before, p.Met f) (hq : ¬q.Met f) :
    firstUnmet? f = some q := by
  rw [firstUnmet?, List.find?_eq_some_iff_append]
  exact ⟨by simpa using hq, before, after, hall, by simpa using hbefore⟩

theorem exists_of_firstUnmet?_eq_some {f : Fields} {q : Requirement}
    (h : firstUnmet? f = some q) :
    ¬q.Met f ∧ ∃ before after, all = before ++ q :: after ∧ ∀ p ∈ before, p.Met f := by
  obtain ⟨hq, before, after, hall, hbefore⟩ := List.find?_eq_some_iff_append.mp h
  exact ⟨by simpa using hq, before, after, hall, by simpa using hbefore⟩

end Requirement

/-! ## Invariants -/

def Invariant.requirements : Invariant → List Requirement
  | identity => [.name, .module]
  | networkInterface => [.networkInterface]
  | sysfsValue => [.sysfsValue]
  | sysfsReset => [.sysfsPath]

theorem Invariant.isGiven_eq (text : Option String) :
    isGiven text = decide (text ≠ none ∧ text ≠ some "") := by
  cases text <;> simp [isGiven]

/-- Fields break an invariant by the first of its requirements that they do not meet. -/
theorem Invariant.broken?_eq (i : Invariant) (f : Fields) :
    (i.broken? f).map (i, ·) =
      (i.requirements.find? fun q => ¬q.Met f).map fun q => (q.invariant, q.rejection) := by
  cases i with
  | identity =>
      have hname : isGiven f.name = decide (Requirement.name.Met f) := isGiven_eq f.name
      have hmodule : isGiven f.module = decide (Requirement.module.Met f) := isGiven_eq f.module
      rw [broken?, requirements, hname, hmodule]
      by_cases hmet : Requirement.name.Met f <;> by_cases hmet' : Requirement.module.Met f <;>
        simp [hmet, hmet', Requirement.invariant, Requirement.rejection]
  | networkInterface =>
      cases hnetwork : f.network <;> cases hinterface : f.networkInterface <;>
        simp [broken?, requirements, Requirement.Met, hnetwork, hinterface,
          Requirement.invariant, Requirement.rejection]
  | sysfsValue =>
      cases hpath : f.sysfsPath <;> cases hvalue : f.sysfsValue <;>
        simp [broken?, requirements, Requirement.Met, hpath, hvalue,
          Requirement.invariant, Requirement.rejection]
  | sysfsReset =>
      cases hreset : f.sysfsResetValue <;> cases hpath : f.sysfsPath <;>
        simp [broken?, requirements, Requirement.Met, hreset, hpath,
          Requirement.invariant, Requirement.rejection]

theorem Fields.violation?_eq (f : Fields) :
    f.violation? = (Requirement.firstUnmet? f).map fun q => (q.invariant, q.rejection) := by
  have hall : Requirement.all = Invariant.all.flatMap Invariant.requirements := rfl
  rw [violation?, Requirement.firstUnmet?, hall, List.find?_flatMap, List.map_findSome?]
  exact congrArg (List.findSome? · _) (funext fun i => i.broken?_eq f)

theorem Fields.violation?_eq_none_iff {f : Fields} :
    f.violation? = none ↔ ∀ q : Requirement, q.Met f := by
  rw [violation?_eq, Option.map_eq_none_iff, Requirement.firstUnmet?_eq_none_iff]

theorem Fields.validate_eq (f : Fields) :
    f.validate =
      match Requirement.firstUnmet? f with
      | some q => ⟨.error q.rejection, [.invariantViolated q.invariant]⟩
      | none => ⟨.ok (), []⟩ := by
  rw [validate, violation?_eq]
  cases Requirement.firstUnmet? f <;> rfl

/-! ## Records -/

namespace Record

variable {source : String} {f : Fields} {r : Record}

theorem ofFields_eq_ok_iff :
    ofFields source f = .ok r ↔ r.source = source ∧ r.fields = f ∧ r.cache = {} := by
  obtain ⟨_, _, hsound, _⟩ := r
  rw [ofFields]
  split
  · next hviolation =>
    refine ⟨nofun, ?_⟩
    rintro ⟨-, rfl, -⟩
    rw [hsound] at hviolation
    cases hviolation
  · grind

theorem build_eq (source : String) (f : Fields) :
    build source f = ⟨ofFields source f, f.validate.log⟩ := by
  rw [build]
  exact congrArg (Logged.mk _) (List.append_nil _)

theorem ofFields_eq_error {q : Requirement} (h : Requirement.firstUnmet? f = some q) :
    ofFields source f = .error q.rejection := by
  have hviolation : f.violation? = some (q.invariant, q.rejection) := by
    rw [Fields.violation?_eq, h]
    rfl
  rw [ofFields]
  split
  · next hother => rw [(Prod.mk.inj (Option.some.inj (hviolation.symm.trans hother))).2]
  · next hnone =>
    rw [hviolation] at hnone
    cases hnone

theorem exists_ofFields_eq_ok_iff :
    (∃ r, ofFields source f = .ok r) ↔ ∀ q : Requirement, q.Met f := by
  rw [← Fields.violation?_eq_none_iff]
  constructor
  · rintro ⟨r, hr⟩
    obtain ⟨-, rfl, -⟩ := ofFields_eq_ok_iff.mp hr
    exact r.sound
  · intro hsound
    exact ⟨⟨source, f, hsound, {}⟩, ofFields_eq_ok_iff.mpr ⟨rfl, rfl, rfl⟩⟩

/-! ## Field by field -/

/-- All that a record shows, side by side. -/
structure Flat where
  source : String
  name : String
  module : String
  appsync : Bool
  massStorage : Bool
  network : Bool
  networkInterface : Option String
  sysfsPath : Option String
  sysfsValue : Option String
  sysfsResetValue : Option String
  extraSysfs : Vector ExtraWrite extraSlots
  idProduct : Option String
  idVendorOverride : Option String
  nat : Bool
  dhcpServer : Bool
  tetheringTechnology : Option String
  cache : NetworkCache
deriving DecidableEq

def flat (r : Record) : Flat where
  source := r.source
  name := r.name
  module := r.module
  appsync := r.appsync
  massStorage := r.massStorage
  network := r.network
  networkInterface := r.networkInterface
  sysfsPath := r.sysfsPath
  sysfsValue := r.sysfsValue
  sysfsResetValue := r.sysfsResetValue
  extraSysfs := r.fields.extraSysfs
  idProduct := r.idProduct
  idVendorOverride := r.idVendorOverride
  nat := r.nat
  dhcpServer := r.dhcpServer
  tetheringTechnology := r.tetheringTechnology
  cache := r.cache

/-- Fields taken over one by one, nothing applied for them yet. -/
def Flat.ofFields (source : String) (f : Fields) : Flat where
  source := source
  name := f.name.getD ""
  module := f.module.getD ""
  appsync := f.appsync
  massStorage := f.massStorage
  network := f.network
  networkInterface := f.networkInterface
  sysfsPath := f.sysfsPath
  sysfsValue := f.sysfsValue
  sysfsResetValue := f.sysfsResetValue
  extraSysfs := f.extraSysfs
  idProduct := f.idProduct
  idVendorOverride := f.idVendorOverride
  nat := f.nat
  dhcpServer := f.dhcpServer
  tetheringTechnology := f.tetheringTechnology
  cache := {}

theorem met (r : Record) (q : Requirement) : q.Met r.fields :=
  Fields.violation?_eq_none_iff.mp r.sound q

theorem fields_name (r : Record) : r.fields.name = some r.name :=
  (Option.getD_of_ne_none (r.met .name).1 _).symm

theorem fields_module (r : Record) : r.fields.module = some r.module :=
  (Option.getD_of_ne_none (r.met .module).1 _).symm

/-- There is nothing to a record but what it shows. -/
theorem flat_injective : Function.Injective flat := by
  intro r s h
  have hname : r.name = s.name := congrArg Flat.name h
  have hmodule : r.module = s.module := congrArg Flat.module h
  have hfieldsName : r.fields.name = s.fields.name := by
    rw [fields_name, fields_name, hname]
  have hfieldsModule : r.fields.module = s.fields.module := by
    rw [fields_module, fields_module, hmodule]
  obtain ⟨source, ⟨⟩, hr, cache⟩ := r
  obtain ⟨source', ⟨⟩, hs, cache'⟩ := s
  simp_all [flat, appsync, massStorage, network, networkInterface, sysfsPath, sysfsValue,
    sysfsResetValue, idProduct, idVendorOverride, nat, dhcpServer, tetheringTechnology]

theorem flat_of_ofFields (h : ofFields source f = .ok r) : r.flat = Flat.ofFields source f := by
  obtain ⟨rfl, rfl, hcache⟩ := ofFields_eq_ok_iff.mp h
  rw [flat, hcache]
  rfl

/-- To check the fields first and then take them over one by one gives the same record. -/
theorem map_flat_ofFields (source : String) (f : Fields) :
    (ofFields source f).map flat = f.validate.value.map fun _ => Flat.ofFields source f := by
  rw [f.validate_eq]
  cases hfirst : Requirement.firstUnmet? f with
  | some q => rw [ofFields_eq_error hfirst]; rfl
  | none =>
      obtain ⟨r, hr⟩ : ∃ r, ofFields source f = .ok r :=
        exists_ofFields_eq_ok_iff.mpr (Requirement.firstUnmet?_eq_none_iff.mp hfirst)
      rw [hr, Except.map, flat_of_ofFields hr]
      rfl

/-! ## Further writes -/

/-- Further writes come in the order of their slots. -/
theorem pairwise_extraWrites (r : Record) : r.extraWrites.Pairwise fun a b => a.1 < b.1 := by
  have hslots : r.fields.extraSysfs.toList.zipIdx.Pairwise fun a b => a.2 < b.2 := by
    rw [← List.pairwise_map (f := Prod.snd) (R := (· < ·)), List.zipIdx_map_snd]
    exact List.pairwise_lt_range' 1
  refine hslots.filterMap _ ?_
  rintro ⟨write, i⟩ ⟨write', j⟩ hlt a ha b hb
  obtain ⟨_, -, rfl⟩ := Option.map_eq_some_iff.mp ha
  obtain ⟨_, -, rfl⟩ := Option.map_eq_some_iff.mp hb
  exact Nat.succ_lt_succ hlt

/-- The further writes are those of the slots that have a path. -/
theorem mem_extraWrites_iff {number : Nat} {path : String} {value : Option String} :
    (number, path, value) ∈ r.extraWrites ↔
      ∃ slot : Fin extraSlots, number = slot + 1
        ∧ r.fields.extraSysfs[slot] = ⟨some path, value⟩ := by
  rw [extraWrites, List.mem_filterMap]
  constructor
  · rintro ⟨⟨write, i⟩, hmem, hwrite⟩
    obtain ⟨_, hpath, heq⟩ := Option.map_eq_some_iff.mp hwrite
    obtain ⟨rfl, rfl, rfl⟩ : i + 1 = number ∧ _ = path ∧ write.value = value := by simpa using heq
    rw [List.mk_mem_zipIdx_iff_getElem?, Vector.getElem?_toList] at hmem
    obtain ⟨hi, rfl⟩ := Vector.getElem?_eq_some_iff.mp hmem
    exact ⟨⟨i, hi⟩, rfl, congrArg (ExtraWrite.mk · _) hpath⟩
  · rintro ⟨slot, rfl, hslot⟩
    refine ⟨(⟨some path, value⟩, slot), ?_, rfl⟩
    rw [List.mk_mem_zipIdx_iff_getElem?, Vector.getElem?_toList, ← hslot]
    exact Vector.getElem?_eq_getElem slot.isLt

/-! ## Validation -/

/-- Fields give a record if they meet all requirements. Otherwise they are rejected for the first
one that they do not meet, and the invariant that it is part of is reported and nothing else. A
record shows its source and each of its fields as they were given, with the further writes of the
slots that have a path, each with its own value and in the order of their numbers, and nothing is
applied for it yet. -/
theorem build_exact (source : String) (f : Fields) :
    ((∃ r, (build source f).value = .ok r) ↔ ∀ q : Requirement, q.Met f)
      ∧ (∀ before q after, Requirement.all = before ++ q :: after →
        (∀ p ∈ before, p.Met f) → ¬q.Met f →
          ∃ event, build source f = ⟨.error q.rejection, [event]⟩
            ∧ f.validate = ⟨.error q.rejection, [event]⟩
            ∧ event = .invariantViolated q.invariant
            ∧ event.level = .trace
            ∧ event.fields = [("invariant", .quoted q.invariant.name)])
      ∧ ∀ r, (build source f).value = .ok r →
        f.validate = ⟨.ok (), []⟩
          ∧ (build source f).log = []
          ∧ r.source = source
          ∧ r.fields = f
          ∧ f.name = some r.name
          ∧ f.module = some r.module
          ∧ r.flat = Flat.ofFields source f
          ∧ (∀ number path value, (number, path, value) ∈ r.extraWrites ↔
            ∃ slot : Fin extraSlots, number = slot + 1
              ∧ f.extraSysfs[slot] = ⟨some path, value⟩)
          ∧ r.extraWrites.Pairwise (fun a b => a.1 < b.1)
          ∧ r.cache.isEmpty = true := by
  rw [build_eq]
  refine ⟨exists_ofFields_eq_ok_iff, ?_, ?_⟩
  · intro before q after hall hbefore hq
    have hfirst := Requirement.firstUnmet?_eq_some hall hbefore hq
    rw [ofFields_eq_error hfirst, f.validate_eq, hfirst]
    exact ⟨_, rfl, rfl, rfl, rfl, rfl⟩
  · intro r hr
    have hmet := exists_ofFields_eq_ok_iff.mp ⟨r, hr⟩
    have hvalidate : f.validate = ⟨.ok (), []⟩ := by
      rw [f.validate_eq, Requirement.firstUnmet?_eq_none_iff.mpr hmet]
    obtain ⟨hsource, rfl, hcache⟩ := ofFields_eq_ok_iff.mp hr
    refine ⟨hvalidate, congrArg Logged.log hvalidate, hsource, rfl, r.fields_name, r.fields_module,
      flat_of_ofFields hr, ?_, ?_, ?_⟩
    · exact fun _ _ _ => mem_extraWrites_iff
    · exact r.pairwise_extraWrites
    · rw [hcache]
      rfl

/-- Fields with a path for the first and the third further write, and with empty texts. -/
def slottedFields : Fields where
  name := some "a"
  module := some "b"
  networkInterface := some ""
  sysfsPath := some ""
  sysfsValue := some ""
  extraSysfs := #v[⟨some "/a", some "1"⟩, ⟨none, some "2"⟩, ⟨some "/c", none⟩, {}]

/-- An empty module is missed before an interface, and empty texts are fine elsewhere. -/
theorem build_exact_emptyModule :
    (∃ event, build "a.ini" { name := some "a", module := some "", network := true } =
        ⟨.error (.missingField "mode" "module"), [event]⟩)
      ∧ ∃ r, (build "a.ini" slottedFields).value = .ok r ∧ slottedFields.name = some r.name
        ∧ (3, "/c", none) ∈ r.extraWrites := by
  obtain ⟨-, hrejected, -⟩ :=
    build_exact "a.ini" { name := some "a", module := some "", network := true }
  obtain ⟨hbuilt, -, hfaithful⟩ := build_exact "a.ini" slottedFields
  refine ⟨?_, ?_⟩
  · obtain ⟨event, hevent, -⟩ := hrejected [.name] .module
      [.networkInterface, .sysfsValue, .sysfsPath] rfl (by decide) (by decide)
    exact ⟨event, hevent⟩
  · obtain ⟨r, hr⟩ := hbuilt.mpr fun q => by cases q <;> decide
    obtain ⟨-, -, -, -, hname, -, -, hwrites, -⟩ := hfaithful r hr
    exact ⟨r, hr, hname, (hwrites 3 "/c" none).mpr ⟨2, rfl, rfl⟩⟩

end Record

end GadgetModes.Mode
