import Mathlib.Data.List.DropRight
import GadgetModes.Text.Blank

/-!
# Trimming

Blanks at the two ends of a text do not count: adding some changes nothing, and
trimming leaves none (`trim_append_blanks`, `trim_trim`, `neat_trimmed`). What trimming leaves is
what stands between blanks (`trim_eq_iff`).
-/

namespace GadgetModes.Text

def AllBlank (cs : List Char) : Prop :=
  ∀ c ∈ cs, isBlank c = true

instance (cs : List Char) : Decidable (AllBlank cs) :=
  decidable_of_iff (cs.all isBlank = true) List.all_eq_true

theorem AllBlank.tail {c : Char} {cs : List Char} (h : AllBlank (c :: cs)) : AllBlank cs :=
  fun d hd => h d (List.mem_cons_of_mem _ hd)

theorem trimEnd_eq_rdropWhile (cs : List Char) : trimEnd cs = cs.rdropWhile isBlank := rfl

/-! ## Blanks in front -/

theorem trimStart_append_blanks {bs : List Char} (h : AllBlank bs) (cs : List Char) :
    trimStart (bs ++ cs) = trimStart cs :=
  List.dropWhile_append_of_pos h

theorem trim_append_blanks {bs : List Char} (h : AllBlank bs) (cs : List Char) :
    trim (bs ++ cs) = trim cs := by
  rw [trim, trimStart_append_blanks h, trim]

theorem trim_trimStart (cs : List Char) : trim (trimStart cs) = trim cs := by
  simp only [trim, trimStart, List.dropWhile_idempotent]

theorem isBlank_of_trimStart {c : Char} {cs rest : List Char} (h : trimStart cs = c :: rest) :
    isBlank c = false := by
  have hhead := List.head?_dropWhile_not isBlank cs
  rw [← trimStart, h] at hhead
  simpa using hhead

/-! ## What is left -/

theorem trim_eq_nil_iff {cs : List Char} : trim cs = [] ↔ AllBlank cs := by
  rw [trim, trimEnd_eq_rdropWhile, List.rdropWhile_eq_nil_iff]
  constructor
  · intro h c hc
    rw [← List.takeWhile_append_dropWhile (p := isBlank) (l := cs)] at hc
    rcases List.mem_append.mp hc with ht | hd
    · exact List.mem_takeWhile_imp ht
    · exact h c hd
  · intro h c hc
    exact h c ((List.dropWhile_sublist _).mem hc)

theorem trimEnd_of_trimStart {cs : List Char} (h : trimStart cs = cs) :
    trimStart (trimEnd cs) = trimEnd cs := by
  cases hcs : trimEnd cs with
  | nil => rfl
  | cons c rest =>
      obtain ⟨after, hafter⟩ := List.rdropWhile_prefix isBlank (l := cs)
      rw [← trimEnd_eq_rdropWhile, hcs] at hafter
      have hc : isBlank c = false := by
        by_contra hb
        rw [← hafter, trimStart, List.cons_append,
          List.dropWhile_cons_of_pos (by simpa using hb)] at h
        have hlen := (List.dropWhile_sublist isBlank (l := rest ++ after)).length_le
        rw [h] at hlen
        simp only [List.length_cons, List.length_append] at hlen
        omega
      simp [trimStart, hc]

/-- What stands in front of something is not trimmed with what follows it. -/
theorem trimEnd_append {cs : List Char} (h : ¬AllBlank cs) (front : List Char) :
    trimEnd (front ++ cs) = front ++ trimEnd cs := by
  have hne : (cs.reverse.dropWhile isBlank).isEmpty = false := by
    rw [List.isEmpty_eq_false_iff, ne_eq, List.dropWhile_eq_nil_iff]
    exact fun hall => h fun c hc => hall c (List.mem_reverse.mpr hc)
  rw [trimEnd, List.reverse_append, List.dropWhile_append, if_neg (by simp [hne]),
    List.reverse_append, List.reverse_reverse, trimEnd]

theorem trimStart_trim (cs : List Char) : trimStart (trim cs) = trim cs :=
  trimEnd_of_trimStart (List.dropWhile_idempotent ..)

theorem trim_trim (cs : List Char) : trim (trim cs) = trim cs := by
  rw [trim, trimStart_trim, trim, trimEnd_eq_rdropWhile, trimEnd_eq_rdropWhile,
    List.rdropWhile_idempotent]

/-! ## Blanks around -/

theorem exists_blanks_around (cs : List Char) :
    ∃ front back, AllBlank front ∧ AllBlank back ∧ cs = front ++ trim cs ++ back := by
  refine ⟨cs.takeWhile isBlank, (trimStart cs).rtakeWhile isBlank, ?_, ?_, ?_⟩
  · exact fun c hc => List.mem_takeWhile_imp hc
  · exact fun c hc => List.mem_rtakeWhile_imp hc
  · rw [List.append_assoc, trim, trimEnd_eq_rdropWhile, List.rdropWhile_append_rtakeWhile,
      trimStart, List.takeWhile_append_dropWhile]

theorem trim_of_not_isBlank {cs : List Char} (h : ∀ c ∈ cs, isBlank c = false) {back : List Char}
    (hback : AllBlank back) : trim (cs ++ back) = cs := by
  cases cs with
  | nil => exact trim_eq_nil_iff.mpr hback
  | cons c cs =>
      have hstart : trimStart (c :: cs ++ back) = c :: cs ++ back := by
        rw [trimStart, List.cons_append, List.dropWhile_cons_of_neg (by simp [h c])]
      have hlast : (c :: cs).rdropWhile isBlank = c :: cs :=
        List.rdropWhile_eq_self_iff.mpr fun hne => by simp [h _ (List.getLast_mem hne)]
      have hreverse : ∀ d ∈ back.reverse, isBlank d = true :=
        fun d hd => hback d (List.mem_reverse.mp hd)
      rw [trim, hstart, trimEnd, List.reverse_append, List.dropWhile_append_of_pos hreverse]
      exact hlast

/-- Trimming leaves a text without blanks if it stands between blanks. -/
theorem trim_eq_iff {cs core : List Char} (hcore : ∀ c ∈ core, isBlank c = false) :
    trim cs = core ↔
      ∃ front back, AllBlank front ∧ AllBlank back ∧ cs = front ++ core ++ back := by
  constructor
  · rintro rfl
    exact exists_blanks_around cs
  · rintro ⟨front, back, hfront, hback, rfl⟩
    rw [List.append_assoc, trim_append_blanks hfront, trim_of_not_isBlank hcore hback]

/-! ## Neat texts -/

/-- A text that is there, with no blank at either end. -/
structure Neat (s : String) : Prop where
  nonempty : s ≠ ""
  head : ∀ c, s.toList.head? = some c → isBlank c = false
  last : ∀ c, s.toList.getLast? = some c → isBlank c = false

/-- What trimming leaves of a text is neat, if it leaves anything. -/
theorem neat_trimmed {s : String} (h : trimmed s ≠ "") : Neat (trimmed s) where
  nonempty := h
  head c hc := by
    rw [trimmed, String.toList_ofList] at hc
    obtain ⟨rest, hrest⟩ := List.head?_eq_some_iff.mp hc
    exact isBlank_of_trimStart ((trimStart_trim _).trans hrest)
  last c hc := by
    rw [trimmed, String.toList_ofList, trim, trimEnd_eq_rdropWhile] at hc
    obtain ⟨hne, rfl⟩ := List.mem_getLast?_eq_getLast hc
    simpa using List.rdropWhile_last_not isBlank _ hne

end GadgetModes.Text
