import GadgetModes.Relay.Escalation

/-!
# Judging termination signals

A counter that is new is given signals one after the other. It counts those that ask the process
to end, and nothing else changes it. From the second of them on each is to abort the process, as
long as the count fits into its word (`register_after`).

The word has 32 bits and wraps around. The termination signal after `2 ^ 32` others is judged as
if it were the first (`not_abort_after_wrap`): that a signal was counted is forgotten when the
count is zero again, though the judgement itself goes by a number that does not wrap.
-/

namespace GadgetModes.Relay

/-! ## One signal -/

/-- One more than a count reaches the limit unless nothing was counted. -/
theorem limit_le_saturatingSucc_iff (n : UInt32) :
    escalationLimit ≤ saturatingSucc n ↔ n ≠ 0 := by
  have hn := n.toNat_lt
  rw [escalationLimit, UInt32.le_iff_toNat_le, Ne, ← UInt32.toNat_inj, saturatingSucc]
  split
  · next hwraps =>
    have hlast : (n.toNat + 1) % 4294967296 = 0 := congrArg UInt32.toNat hwraps
    simp
    omega
  · next hfits =>
    have hnext : (n + 1).toNat = (n.toNat + 1) % 4294967296 := rfl
    have hne : (n.toNat + 1) % 4294967296 ≠ 0 := fun h => hfits (UInt32.toNat_inj.mp h)
    rw [hnext]
    simp
    omega

namespace EscalationCounter

theorem register_eq (c : EscalationCounter) (s : Int32) :
    c.register s =
      if isTermination s then (if c.count = 0 then .proceed else .abort, ⟨c.count + 1⟩)
      else (.proceed, c) := by
  rw [register]
  split
  · by_cases hcount : c.count = 0 <;> simp [limit_le_saturatingSucc_iff, hcount]
  · rfl

/-! ## Signals in a row -/

/-- A counter that was new and was given some signals. -/
def after (signals : List Int32) : EscalationCounter :=
  signals.foldl (fun c s => (c.register s).2) {}

/-- How many signals of a list ask the process to end. -/
def terminations (signals : List Int32) : Nat :=
  signals.countP isTermination

theorem after_append_singleton (before : List Int32) (s : Int32) :
    after (before ++ [s]) = ((after before).register s).2 := by
  simp [after]

theorem terminations_cons (s : Int32) (signals : List Int32) :
    terminations (s :: signals) = terminations signals + if isTermination s then 1 else 0 :=
  List.countP_cons

theorem terminations_append_singleton (before : List Int32) (s : Int32) :
    terminations (before ++ [s]) =
      terminations before + if isTermination s then 1 else 0 := by
  simp [terminations, List.countP_singleton]

theorem terminations_pos_iff {signals : List Int32} :
    0 < terminations signals ↔ ∃ t ∈ signals, isTermination t = true :=
  List.countP_pos_iff

theorem count_foldl (c : EscalationCounter) (signals : List Int32) :
    (signals.foldl (fun c s => (c.register s).2) c).count =
      c.count + UInt32.ofNat (terminations signals) := by
  induction signals generalizing c with
  | nil => simp [terminations]
  | cons s signals ih =>
      rw [List.foldl_cons, ih, register_eq, terminations_cons]
      split
      · rw [UInt32.ofNat_add, UInt32.add_comm (UInt32.ofNat _), ← UInt32.add_assoc]
        rfl
      · rw [Nat.add_zero]

/-- The count is the number of termination signals, as far as its word can tell. -/
theorem count_after (signals : List Int32) :
    (after signals).count.toNat = terminations signals % UInt32.size := by
  rw [after, count_foldl, UInt32.zero_add, UInt32.toNat_ofNat']

theorem verdict_after (before : List Int32) (s : Int32) :
    ((after before).register s).1 = .abort ↔
      isTermination s = true ∧ ¬UInt32.size ∣ terminations before := by
  have hcount : (after before).count = 0 ↔ UInt32.size ∣ terminations before := by
    rw [← UInt32.toNat_inj, count_after, Nat.dvd_iff_mod_eq_zero]
    rfl
  rw [register_eq, ← hcount]
  split
  · next hs => by_cases h : (after before).count = 0 <;> simp [h, hs]
  · next hs => simp [hs]

/-- The count falls when it wraps around. -/
theorem count_lt_iff (before : List Int32) (s : Int32) :
    (after (before ++ [s])).count < (after before).count ↔
      isTermination s = true ∧ UInt32.size ∣ terminations before + 1 := by
  rw [UInt32.lt_iff_toNat_lt, count_after, count_after, terminations_append_singleton]
  split
  · next hs =>
    rw [and_iff_right hs, UInt32.size]
    omega
  · next hs => simp [hs]

/-- What a new counter says of a signal that it is given after some others, and what becomes of
its count. A termination signal is to abort the process unless the number of those before it is
a multiple of `2 ^ 32`, and the count falls when this number becomes one. So, while fewer than
`2 ^ 32` termination signals arrived, all but the first are to abort the process, and the count
does not fall. Other signals leave the counter as it is. -/
theorem register_after (before : List Int32) (s : Int32) :
    (((after before).register s).1 = .abort ↔
        isTermination s = true ∧ ¬UInt32.size ∣ terminations before)
      ∧ ((after (before ++ [s])).count < (after before).count ↔
        isTermination s = true ∧ UInt32.size ∣ terminations before + 1)
      ∧ (terminations before < UInt32.size →
        (((after before).register s).1 = .abort ↔
          isTermination s = true ∧ ∃ t ∈ before, isTermination t = true))
      ∧ (terminations (before ++ [s]) < UInt32.size →
        (after before).count ≤ (after (before ++ [s])).count)
      ∧ (isTermination s = false → after (before ++ [s]) = after before) := by
  refine ⟨verdict_after before s, count_lt_iff before s, ?_, ?_, ?_⟩
  · intro hfits
    rw [verdict_after, ← terminations_pos_iff]
    refine and_congr_right fun _ => ⟨fun hwraps => ?_, fun hpos hwraps => ?_⟩
    · exact Nat.pos_of_ne_zero fun hnone => hwraps (hnone ▸ Nat.dvd_zero _)
    · exact Nat.not_le.mpr hfits (Nat.le_of_dvd hpos hwraps)
  · intro hfits
    rw [terminations_append_singleton] at hfits
    rw [UInt32.le_iff_toNat_le, count_after, count_after, terminations_append_singleton,
      Nat.mod_eq_of_lt hfits, Nat.mod_eq_of_lt (Nat.lt_of_le_of_lt (Nat.le_add_right _ _) hfits)]
    exact Nat.le_add_right _ _
  · intro hs
    rw [after_append_singleton, register_eq, if_neg (by simp [hs])]

/-- An interrupt after a hangup, a request to terminate and a kill is to abort the process. -/
theorem register_after_terminate :
    terminations [1, 15, 9] < UInt32.size ∧ ((after [1, 15, 9]).register 2).1 = .abort :=
  ⟨by decide, ((register_after [1, 15, 9] 2).2.2.1 (by decide)).mpr
    ⟨by decide, 15, by decide, by decide⟩⟩

/-- A process that was asked to end `2 ^ 32` times is not to abort when it is asked once more, and
its count has fallen. -/
theorem not_abort_after_wrap :
    isTermination 2 = true
      ∧ (∃ t ∈ List.replicate UInt32.size (2 : Int32), isTermination t = true)
      ∧ ((after (List.replicate UInt32.size 2)).register 2).1 = .proceed
      ∧ (after (List.replicate (UInt32.size - 1) 2 ++ [2])).count <
        (after (List.replicate (UInt32.size - 1) 2)).count := by
  have hcount : ∀ n, terminations (List.replicate n 2) = n := by
    intro n
    rw [terminations, List.countP_replicate, if_pos (by decide)]
  refine ⟨by decide, ⟨2, List.mem_replicate.mpr ⟨by decide, rfl⟩, by decide⟩, ?_, ?_⟩
  · have hverdict := verdict_after (List.replicate UInt32.size 2) 2
    rw [hcount] at hverdict
    cases hnext : ((after (List.replicate UInt32.size 2)).register 2).1 with
    | proceed => rfl
    | abort => exact absurd (Nat.dvd_refl _) (hverdict.mp hnext).2
  · rw [count_lt_iff, hcount]
    decide

end EscalationCounter

end GadgetModes.Relay
