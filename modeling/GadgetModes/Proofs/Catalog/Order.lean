import GadgetModes.Catalog.Basic

/-!
# The order of a catalog

Byte order is a linear order of texts, so there is one way only to sort records by name
that keeps those of one name in their order (`eq_of_sorted_of_sameNamed`), and a catalog
is sorted that way (`sorted_ofRecords`, `sameNamed_ofRecords`).
-/

namespace GadgetModes

open GadgetModes.Mode GadgetModes.Text

/-! ## Byte order -/

namespace Text

theorem bytesLe_iff {s t : String} : bytesLe s t = true ↔ utf8 s ≤ utf8 t := by
  simp [bytesLe, bytesLt]

theorem utf8_injective {s t : String} (h : utf8 s = utf8 t) : s = t :=
  String.toByteArray_inj.mp (ByteArray.ext (by simpa [utf8] using h))

theorem bytesLe_refl (s : String) : bytesLe s s = true :=
  bytesLe_iff.mpr (List.le_refl _)

theorem bytesLe_trans {s t u : String} (h₁ : bytesLe s t = true) (h₂ : bytesLe t u = true) :
    bytesLe s u = true :=
  bytesLe_iff.mpr (List.le_trans (bytesLe_iff.mp h₁) (bytesLe_iff.mp h₂))

theorem bytesLe_total (s t : String) : bytesLe s t = true ∨ bytesLe t s = true := by
  rw [bytesLe_iff, bytesLe_iff]
  exact List.le_total _ _

theorem bytesLe_antisymm {s t : String} (h₁ : bytesLe s t = true) (h₂ : bytesLe t s = true) :
    s = t :=
  utf8_injective (List.le_antisymm (bytesLe_iff.mp h₁) (bytesLe_iff.mp h₂))

end Text

namespace Catalog

theorem nameLe_trans (a b c : Record) (h₁ : nameLe a b = true) (h₂ : nameLe b c = true) :
    nameLe a c = true :=
  bytesLe_trans h₁ h₂

theorem nameLe_total (a b : Record) : (nameLe a b || nameLe b a) = true := by
  simpa [nameLe] using bytesLe_total a.name b.name

/-! ## Sorted records -/

def Sorted (records : List Record) : Prop :=
  records.Pairwise fun a b => nameLe a b = true

def sameNamed (name : String) (records : List Record) : List Record :=
  records.filter (·.name = name)

theorem sameNamed_filter (name : String) (p : Record → Bool) (records : List Record) :
    sameNamed name (records.filter p) = (sameNamed name records).filter p := by
  rw [sameNamed, sameNamed, List.filter_filter, List.filter_filter]
  simp only [Bool.and_comm]

/-- Between the heads of sorted lists with records of the same names there is no order. -/
theorem Sorted.head_le {a b : Record} {as bs : List Record} (hb : Sorted (b :: bs))
    (h : sameNamed a.name (a :: as) = sameNamed a.name (b :: bs)) : nameLe b a = true := by
  have hmem : a ∈ sameNamed a.name (b :: bs) := by
    rw [← h]
    simp [sameNamed]
  rcases List.mem_cons.mp (List.mem_filter.mp hmem).1 with rfl | hmem
  · exact bytesLe_refl _
  · exact List.rel_of_pairwise_cons hb hmem

/-- There is one way to sort records that keeps those of one name in their order. -/
theorem eq_of_sorted_of_sameNamed {as bs : List Record} (ha : Sorted as) (hb : Sorted bs)
    (h : ∀ name, sameNamed name as = sameNamed name bs) : as = bs := by
  induction as generalizing bs with
  | nil =>
      cases bs with
      | nil => rfl
      | cons b bs => simpa [sameNamed] using h b.name
  | cons a as ih =>
      cases bs with
      | nil => simpa [sameNamed] using h a.name
      | cons b bs =>
          have hname : a.name = b.name :=
            bytesLe_antisymm (ha.head_le (h b.name).symm) (hb.head_le (h a.name))
          obtain rfl : a = b := by
            have heads := h a.name
            simp only [sameNamed, List.filter_cons, hname, decide_true, if_true] at heads
            exact (List.cons.inj heads).1
          refine congrArg (a :: ·) (ih ha.of_cons hb.of_cons fun name => ?_)
          have hrest := h name
          simp only [sameNamed, List.filter_cons] at hrest
          split at hrest
          · exact (List.cons.inj hrest).2
          · exact hrest

/-! ## Catalogs -/

theorem sorted_ofRecords (records : List Record) (diagnostic : Bool) :
    Sorted (ofRecords records diagnostic).modes.toList := by
  rw [ofRecords, List.toList_toArray]
  exact List.pairwise_mergeSort nameLe_trans nameLe_total records

theorem perm_ofRecords (records : List Record) (diagnostic : Bool) :
    (ofRecords records diagnostic).modes.toList.Perm records := by
  rw [ofRecords, List.toList_toArray]
  exact List.mergeSort_perm records nameLe

/-- Records of one name stay in their order. -/
theorem sameNamed_ofRecords (records : List Record) (diagnostic : Bool) (name : String) :
    sameNamed name (ofRecords records diagnostic).modes.toList = sameNamed name records := by
  have hsorted : (sameNamed name records).Pairwise fun a b => nameLe a b = true := by
    refine List.Pairwise.imp_of_mem ?_ (List.pairwise_of_forall fun _ _ => True.intro)
    intro a b ha hb _
    have ha : a.name = name := by simpa using (List.mem_filter.mp ha).2
    have hb : b.name = name := by simpa using (List.mem_filter.mp hb).2
    rw [nameLe, ha, hb]
    exact bytesLe_refl name
  have hsub : (sameNamed name records).Sublist
      (sameNamed name (records.mergeSort nameLe)) := by
    have h := List.sublist_mergeSort nameLe_trans nameLe_total hsorted List.filter_sublist
    simpa [sameNamed, List.filter_filter] using h.filter (·.name = name)
  have hlength : (sameNamed name records).length =
      (sameNamed name (records.mergeSort nameLe)).length :=
    ((List.mergeSort_perm records nameLe).symm.filter _).length_eq
  rw [ofRecords, List.toList_toArray]
  exact (hsub.eq_of_length hlength).symm

end Catalog

end GadgetModes
