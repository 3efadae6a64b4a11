import GadgetModes.Proofs.Catalog.Order

/-!
# Looking names up

The search of a catalog narrows the part in which a name can be, and what it keeps of that
part (`Catalog.Narrowed`) fixes the position that it ends at. As a catalog is sorted by the
very order that the search goes by, this is the first record of the name in the catalog; and
as the sort is stable, it is the first one of the list that the catalog was made of.
-/

namespace GadgetModes

open GadgetModes.Mode GadgetModes.Text

namespace Text

theorem bytesLt_iff {s t : String} : bytesLt s t = true ↔ utf8 s < utf8 t := by
  simp [bytesLt]

theorem bytesLt_irrefl (s : String) : bytesLt s s = false := by
  simp [bytesLt]

end Text

namespace Catalog

/-! ## The search -/

variable {before : Record → Bool} {modes : Array Record}

/-- The modes that are before a point come first. -/
def Partitioned (before : Record → Bool) (modes : Array Record) : Prop :=
  ∀ i j : Nat, i ≤ j → modes[j]?.any before = true → modes[i]?.any before = true

/-- All modes below a position are before the point that is looked for, and no mode from
another position on is. -/
structure Narrowed (before : Record → Bool) (modes : Array Record) (lo hi : Nat) : Prop where
  below : ∀ i < lo, modes[i]?.any before = true
  above : ∀ i, hi ≤ i → modes[i]?.any before = false

theorem narrowed_zero_size (before : Record → Bool) (modes : Array Record) :
    Narrowed before modes 0 modes.size where
  below := by
    intro i hi
    omega
  above := by
    intro i hi
    rw [Array.getElem?_eq_none hi]
    rfl

/-- The search ends between the modes that are before the point and the others. -/
theorem Narrowed.partitionPoint {lo hi : Nat} (h : Narrowed before modes lo hi)
    (hmodes : Partitioned before modes) :
    Narrowed before modes (partitionPoint before modes lo hi)
      (partitionPoint before modes lo hi) := by
  fun_induction Catalog.partitionPoint before modes lo hi with
  | case1 lo hi hlt mid hbefore ih =>
    refine ih ⟨fun i hi => ?_, h.above⟩
    exact hmodes i mid (by omega) hbefore
  | case2 lo hi hlt mid hbefore ih =>
    refine ih ⟨h.below, fun i hi => ?_⟩
    rw [Bool.eq_false_iff]
    exact fun hi' => hbefore (hmodes mid i hi hi')
  | case3 lo hi hlt =>
    exact ⟨h.below, fun i hi => h.above i (by omega)⟩

/-! ## Sorted catalogs -/

section Sorted

variable {c : Catalog} (hc : Sorted c.modes.toList)
include hc

/-- Of two modes in a sorted catalog the later one has not the lesser name. -/
theorem Sorted.name_le {i j : Nat} {a b : Record} (hij : i ≤ j) (ha : c.modes[i]? = some a)
    (hb : c.modes[j]? = some b) : bytesLe a.name b.name = true := by
  rw [← Array.getElem?_toList] at ha hb
  obtain ⟨hi, rfl⟩ := List.getElem?_eq_some_iff.mp ha
  obtain ⟨hj, rfl⟩ := List.getElem?_eq_some_iff.mp hb
  rcases Nat.lt_or_eq_of_le hij with hlt | rfl
  · exact List.pairwise_iff_getElem.mp hc i j hi hj hlt
  · exact bytesLe_refl _

theorem Sorted.partitioned (name : String) :
    Partitioned (fun m => bytesLt m.name name) c.modes := by
  intro i j hij hj
  obtain ⟨b, hb, hlt⟩ := (Option.any_eq_true _ _).mp hj
  have hbound : i < c.modes.size := by
    obtain ⟨hj, -⟩ := Array.getElem?_eq_some_iff.mp hb
    omega
  have ha : c.modes[i]? = some c.modes[i] := Array.getElem?_eq_getElem hbound
  have hle := bytesLe_iff.mp (hc.name_le hij ha hb)
  rw [ha, Option.any_some, bytesLt_iff]
  exact List.lt_of_le_of_lt hle (bytesLt_iff.mp hlt)

/-- Where a search for a name ends there is a mode of that name, if there is one anywhere, and
no mode in front of it has the name. -/
theorem Sorted.first_of_narrowed {name : String} {k i : Nat} {a : Record}
    (hk : Narrowed (fun m => bytesLt m.name name) c.modes k k) (ha : c.modes[i]? = some a)
    (hname : a.name = name) : k ≤ i ∧ ∃ m, c.modes[k]? = some m ∧ m.name = name := by
  have hki : k ≤ i := by
    refine Nat.le_of_not_lt fun hik => ?_
    have hbelow := hk.below i hik
    rw [ha, Option.any_some, hname, bytesLt_irrefl] at hbelow
    cases hbelow
  refine ⟨hki, ?_⟩
  have hbound : k < c.modes.size := by
    obtain ⟨hi, -⟩ := Array.getElem?_eq_some_iff.mp ha
    omega
  have hm : c.modes[k]? = some c.modes[k] := Array.getElem?_eq_getElem hbound
  have habove := hk.above k (Nat.le_refl k)
  rw [hm, Option.any_some] at habove
  have hle := hc.name_le hki hm ha
  rw [hname] at hle
  have hge : bytesLe name c.modes[k].name = true := by rw [bytesLe, habove]; rfl
  exact ⟨_, hm, bytesLe_antisymm hle hge⟩

/-- In a sorted catalog looking a name up finds the first mode of that name. -/
theorem Sorted.lookup (name : String) : c.lookup name = c.modes.toList.find? (·.name = name) := by
  have hk := (narrowed_zero_size (fun m => bytesLt m.name name) c.modes).partitionPoint
    (hc.partitioned name)
  rw [Catalog.lookup, position?]
  generalize Catalog.partitionPoint _ c.modes 0 c.modes.size = k at hk
  by_cases hfound : c.modes[k]?.any (·.name = name) = true
  · obtain ⟨m, hm, hname⟩ := (Option.any_eq_true _ _).mp hfound
    rw [if_pos hfound, Option.bind_some, hm, eq_comm, List.find?_eq_some_iff_getElem]
    obtain ⟨hbound, rfl⟩ := Array.getElem?_eq_some_iff.mp hm
    refine ⟨hname, k, by simpa using hbound, by simp, fun j hj => ?_⟩
    have hj' : c.modes[j]? = some c.modes[j] := Array.getElem?_eq_getElem (by omega)
    have hne : c.modes[j].name ≠ name := by
      intro hj''
      have hle := (hc.first_of_narrowed hk hj' hj'').1
      omega
    simpa using hne
  · rw [if_neg hfound, Option.bind_none, eq_comm, List.find?_eq_none]
    intro a ha hname
    obtain ⟨i, hi⟩ := List.mem_iff_getElem?.mp ha
    rw [Array.getElem?_toList] at hi
    obtain ⟨-, m, hm, hmname⟩ := hc.first_of_narrowed hk hi (of_decide_eq_true hname)
    exact hfound (by simp [hm, hmname])

end Sorted

/-! ## Catalogs of lists -/

/-- The first record of a name in a list and in the catalog made of it are the same. -/
theorem find?_ofRecords (records : List Record) (diagnostic : Bool) (name : String) :
    (ofRecords records diagnostic).modes.toList.find? (·.name = name) =
      records.find? (·.name = name) := by
  rw [← List.head?_filter, ← List.head?_filter]
  exact congrArg List.head? (sameNamed_ofRecords records diagnostic name)

/-- Looking a name up in the catalog of a list finds the first record of the list that has
exactly this name, and nothing if none has. The catalog holds the records of the list, none
lost and none merged, in the byte order of their names, those of one name in the order of the
list. -/
theorem lookup_ofRecords (records : List Record) (diagnostic : Bool) :
    (∀ name, (ofRecords records diagnostic).lookup name = records.find? (·.name = name))
      ∧ (∀ name, (ofRecords records diagnostic).contains name =
          (records.find? (·.name = name)).isSome)
      ∧ (∀ name, (ofRecords records diagnostic).duplicate name =
          records.find? (·.name = name))
      ∧ (ofRecords records diagnostic).diagnostic = diagnostic
      ∧ (ofRecords records diagnostic).modes.toList.Perm records
      ∧ ((ofRecords records diagnostic).modes.toList.map (utf8 ·.name)).Pairwise (· ≤ ·)
      ∧ ∀ name, (ofRecords records diagnostic).modes.toList.filter (·.name = name) =
          records.filter (·.name = name) := by
  have hlookup : ∀ name, (ofRecords records diagnostic).lookup name =
      records.find? (·.name = name) := fun name => by
    rw [(sorted_ofRecords records diagnostic).lookup, find?_ofRecords]
  refine ⟨hlookup, fun name => ?_, fun name => ?_, rfl, perm_ofRecords .., ?_,
    sameNamed_ofRecords records diagnostic⟩
  · rw [contains, hlookup]
  · rw [duplicate_eq_lookup, hlookup]
  · rw [List.pairwise_map]
    exact (sorted_ofRecords records diagnostic).imp bytesLe_iff.mp

end Catalog

end GadgetModes
