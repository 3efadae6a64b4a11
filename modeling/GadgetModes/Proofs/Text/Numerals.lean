import Mathlib.Algebra.Group.Int.Defs
import Mathlib.Algebra.Group.Nat.Defs
import GadgetModes.Proofs.Text.Trim
import GadgetModes.Text.Integer

/-!
# Numerals

A numeral is a sign, or none, and then digits, of which each counts by the power of ten of its
place. A text is read as an integer if it is a numeral and its value fits, and then as that value
(`readSigned64_eq_some_iff`). A reader that has nothing but words of 64 bits, and gives up at the
first step that leads out of them, reads the same (`readWord_eq`): the numbers that it goes through
only move away from zero, so none after one that does not fit can fit again.
-/

namespace GadgetModes.Text

/-! ## Digits -/

def IsDigit (c : Char) : Prop :=
  '0' ≤ c ∧ c ≤ '9'

instance (c : Char) : Decidable (IsDigit c) :=
  inferInstanceAs (Decidable (_ ∧ _))

theorem IsDigit.toNat {c : Char} (h : IsDigit c) : 48 ≤ c.toNat ∧ c.toNat ≤ 57 := h

theorem IsDigit.isBlank {c : Char} (h : IsDigit c) : isBlank c = false := by
  have hrange := h.toNat
  simp only [Text.isBlank, blankRanges, List.any_cons, List.any_nil, Bool.or_false,
    Bool.or_eq_false_iff, Bool.and_eq_false_iff, decide_eq_false_iff_not]
  omega

/-- What digits stand for: each counts by the power of ten of its place. -/
def valueOf : List Char → Nat
  | [] => 0
  | c :: cs => (c.toNat - '0'.toNat) * 10 ^ cs.length + valueOf cs

/-- The number with one more digit behind it. -/
def shift (n : Nat) (c : Char) : Option Nat :=
  (digitValue? c).map (n * 10 + ·)

theorem shift_eq_some_iff {c : Char} {m n : Nat} :
    shift m c = some n ↔ IsDigit c ∧ m * 10 + (c.toNat - '0'.toNat) = n := by
  unfold shift digitValue?
  by_cases h : '0' ≤ c ∧ c ≤ '9'
  · rw [if_pos h]
    simp [IsDigit, h]
  · rw [if_neg h]
    simp [IsDigit, h]

theorem readDigits_eq (cs : List Char) :
    readDigits cs = if cs.isEmpty then none else cs.foldlM shift 0 := rfl

/-- Digits that follow a number move it up by their places. -/
theorem foldlM_shift_eq_some_iff {cs : List Char} {m n : Nat} :
    cs.foldlM shift m = some n ↔
      (∀ c ∈ cs, IsDigit c) ∧ m * 10 ^ cs.length + valueOf cs = n := by
  induction cs generalizing m with
  | nil => simp [valueOf]
  | cons c cs ih =>
      have hplace : ∀ d : Nat, (m * 10 + d) * 10 ^ cs.length + valueOf cs =
          m * 10 ^ (cs.length + 1) + (d * 10 ^ cs.length + valueOf cs) := by
        intro d
        rw [Nat.pow_succ', Nat.add_mul, Nat.mul_assoc, Nat.add_assoc]
      rw [List.foldlM_cons, Option.bind_eq_bind, Option.bind_eq_some_iff]
      simp only [shift_eq_some_iff, ih, List.forall_mem_cons, List.length_cons, valueOf]
      constructor
      · rintro ⟨k, ⟨hc, rfl⟩, hcs, rfl⟩
        exact ⟨⟨hc, hcs⟩, (hplace _).symm⟩
      · rintro ⟨⟨hc, hcs⟩, rfl⟩
        exact ⟨_, ⟨hc, rfl⟩, hcs, hplace _⟩

theorem le_of_foldlM_shift {cs : List Char} {m n : Nat} (h : cs.foldlM shift m = some n) :
    m ≤ n := by
  obtain ⟨-, rfl⟩ := foldlM_shift_eq_some_iff.mp h
  calc m ≤ m * 10 ^ cs.length := Nat.le_mul_of_pos_right m (Nat.pow_pos (by decide))
    _ ≤ m * 10 ^ cs.length + valueOf cs := Nat.le_add_right ..

theorem readDigits_eq_some_iff {cs : List Char} {n : Nat} :
    readDigits cs = some n ↔ cs ≠ [] ∧ (∀ c ∈ cs, IsDigit c) ∧ valueOf cs = n := by
  rw [readDigits_eq]
  cases cs with
  | nil => simp
  | cons c cs =>
      rw [if_neg (by simp), foldlM_shift_eq_some_iff, Nat.zero_mul, Nat.zero_add]
      simp

theorem fitsSigned64_iff {i : Int} : fitsSigned64 i = true ↔ -2 ^ 63 ≤ i ∧ i ≤ 2 ^ 63 - 1 := by
  simp only [fitsSigned64, Bool.and_eq_true, decide_eq_true_eq]
  unfold signedLimit64
  omega

/-! ## Signs -/

inductive Sign where
  | unsigned
  | plus
  | minus

namespace Sign

def text : Sign → List Char
  | unsigned => []
  | plus => ['+']
  | minus => ['-']

theorem isBlank_of_mem_text {sign : Sign} {c : Char} (h : c ∈ sign.text) :
    isBlank c = false := by
  cases sign with
  | unsigned => cases h
  | plus =>
      obtain rfl := List.mem_singleton.mp h
      decide
  | minus =>
      obtain rfl := List.mem_singleton.mp h
      decide

/-- The number on the side of zero that a sign names. -/
def of : Sign → Nat → Int
  | minus, n => -n
  | _, n => n

theorem of_zero (sign : Sign) : sign.of 0 = 0 := by
  cases sign <;> rfl

theorem of_add (sign : Sign) (m n : Nat) : sign.of (m + n) = sign.of m + sign.of n := by
  cases sign <;> simp only [of] <;> omega

theorem of_mul_ten (sign : Sign) (n : Nat) : sign.of (n * 10) = sign.of n * 10 := by
  cases sign <;> simp only [of] <;> omega

/-- What lies between zero and a number that fits a word fits it too. -/
theorem fits_of_le {sign : Sign} {m n : Nat} (hle : m ≤ n)
    (hn : fitsSigned64 (sign.of n) = true) : fitsSigned64 (sign.of m) = true := by
  rw [fitsSigned64_iff] at hn ⊢
  cases sign <;> simp only [of] at hn ⊢ <;> omega

end Sign

/-! ## Numerals -/

/-- Digits, at least one, and a sign before them or none. -/
structure Numeral where
  sign : Sign
  digits : List Char
  nonempty : digits ≠ []
  decimal : ∀ c ∈ digits, IsDigit c

namespace Numeral

def text (n : Numeral) : List Char :=
  n.sign.text ++ n.digits

def value (n : Numeral) : Int :=
  n.sign.of (valueOf n.digits)

theorem readDigits_digits (n : Numeral) : readDigits n.digits = some (valueOf n.digits) :=
  readDigits_eq_some_iff.mpr ⟨n.nonempty, n.decimal, rfl⟩

theorem isBlank_of_mem_text {n : Numeral} {c : Char} (h : c ∈ n.text) : isBlank c = false := by
  rcases List.mem_append.mp h with hsign | hdigit
  · exact Sign.isBlank_of_mem_text hsign
  · exact (n.decimal c hdigit).isBlank

theorem readSigned_text (n : Numeral) : readSigned n.text = some n.value := by
  have hread := n.readDigits_digits
  obtain ⟨sign, digits, hne, hdigits⟩ := n
  cases sign with
  | plus => simp [text, value, Sign.text, Sign.of, readSigned, hread]
  | minus => simp [text, value, Sign.text, Sign.of, readSigned, hread]
  | unsigned =>
      -- The first character is a digit, so it is not taken for a sign.
      have hfirst : ∀ c, ¬IsDigit c → ∀ rest, digits ≠ c :: rest := by
        rintro c hc rest rfl
        exact hc (hdigits c List.mem_cons_self)
      rw [text, Sign.text, List.nil_append, readSigned.eq_3 digits (hfirst '+' (by decide))
        (hfirst '-' (by decide)), hread]
      rfl

end Numeral

/-- Digits that are read make a numeral with whatever sign. -/
theorem exists_numeral_of_readDigits (sign : Sign) {cs : List Char} {m : Nat}
    (h : readDigits cs = some m) :
    ∃ n : Numeral, n.text = sign.text ++ cs ∧ n.value = sign.of m := by
  obtain ⟨hne, hdigits, rfl⟩ := readDigits_eq_some_iff.mp h
  exact ⟨⟨sign, cs, hne, hdigits⟩, rfl, rfl⟩

/-- The integers are read off the numerals and nothing else, as what these stand for. -/
theorem readSigned_eq_some_iff {cs : List Char} {i : Int} :
    readSigned cs = some i ↔ ∃ n : Numeral, n.text = cs ∧ n.value = i := by
  constructor
  · intro h
    unfold readSigned at h
    split at h
    · obtain ⟨m, hm, rfl⟩ := Option.map_eq_some_iff.mp h
      exact exists_numeral_of_readDigits .plus hm
    · obtain ⟨m, hm, rfl⟩ := Option.map_eq_some_iff.mp h
      exact exists_numeral_of_readDigits .minus hm
    · obtain ⟨m, hm, rfl⟩ := Option.map_eq_some_iff.mp h
      exact exists_numeral_of_readDigits .unsigned hm
  · rintro ⟨n, rfl, rfl⟩
    exact n.readSigned_text

theorem readSigned64_eq_some_iff {cs : List Char} {i : Int} :
    readSigned64 cs = some i ↔
      (∃ n : Numeral, n.text = cs ∧ n.value = i) ∧ -2 ^ 63 ≤ i ∧ i ≤ 2 ^ 63 - 1 := by
  rw [readSigned64, Option.filter_eq_some_iff, readSigned_eq_some_iff, fitsSigned64_iff]

/-! ## Words -/

/-- A number as a signed word of 64 bits, if it fits one. -/
def word? (i : Int) : Option Int64 :=
  if fitsSigned64 i then some (Int64.ofInt i) else none

theorem map_toInt_word? (i : Int) : (word? i).map Int64.toInt = (some i).filter fitsSigned64 := by
  rw [word?, Option.filter_some]
  split
  · next hfits =>
    obtain ⟨hlow, hhigh⟩ := fitsSigned64_iff.mp hfits
    rw [Option.map_some, Int64.toInt_ofInt_of_le hlow (by omega)]
  · rfl

theorem toInt_of_word? {i : Int} {w : Int64} (h : word? i = some w) : w.toInt = i := by
  have hmap := map_toInt_word? i
  rw [h, Option.map_some, eq_comm, Option.filter_eq_some_iff] at hmap
  exact (Option.some.inj hmap.1).symm

theorem word?_toInt (w : Int64) : word? w.toInt = some w := by
  have hlow := w.le_toInt
  have hhigh := w.toInt_lt
  have hfits : fitsSigned64 w.toInt = true := fitsSigned64_iff.mpr ⟨hlow, by omega⟩
  rw [word?, if_pos hfits, Int64.ofInt_toInt]

theorem word?_eq_none_iff {i : Int} : word? i = none ↔ ¬fitsSigned64 i = true := by
  simp [word?]

/-- One more digit behind a word: ten times as much, and the digit on the side of its sign. The
product and the sum are each checked. -/
def shiftWord (sign : Sign) (w : Int64) (c : Char) : Option Int64 := do
  let digit ← digitValue? c
  let tens ← word? (w.toInt * 10)
  word? (tens.toInt + sign.of digit)

/-- The value of digits with a sign, gathered in a word. -/
def readWordDigits (sign : Sign) (cs : List Char) : Option Int64 :=
  if cs.isEmpty then none else cs.foldlM (shiftWord sign) 0

/-- A signed integer, read without ever leaving a word. -/
def readWord : List Char → Option Int64
  | '+' :: cs => readWordDigits .plus cs
  | '-' :: cs => readWordDigits .minus cs
  | cs => readWordDigits .unsigned cs

/-- Where the product does not fit, the sum does not either, so the two checks are one. -/
theorem shiftWord_eq {sign : Sign} {w : Int64} {m : Nat} (h : w.toInt = sign.of m) (c : Char) :
    shiftWord sign w c = (shift m c).bind fun n => word? (sign.of n) := by
  unfold shiftWord shift
  cases digitValue? c with
  | none => rfl
  | some d =>
      rw [h, ← Sign.of_mul_ten]
      cases htens : word? (sign.of (m * 10)) with
      | none =>
          have hsum : word? (sign.of (m * 10 + d)) = none := by
            rw [word?_eq_none_iff] at htens ⊢
            exact fun hfits => htens (Sign.fits_of_le (Nat.le_add_right ..) hfits)
          simp [hsum]
      | some tens => simp [toInt_of_word? htens, Sign.of_add]

/-- What does not fit a word is never followed by what does. -/
theorem foldlM_shiftWord {sign : Sign} {cs : List Char} {w : Int64} {m : Nat}
    (h : w.toInt = sign.of m) :
    cs.foldlM (shiftWord sign) w = (cs.foldlM shift m).bind fun n => word? (sign.of n) := by
  induction cs generalizing w m with
  | nil => simp [← h, word?_toInt]
  | cons c cs ih =>
      rw [List.foldlM_cons, List.foldlM_cons, shiftWord_eq h]
      cases shift m c with
      | none => rfl
      | some n =>
          simp only [Option.bind_some, Option.bind_eq_bind]
          cases hn : word? (sign.of n) with
          | some v => exact ih (toInt_of_word? hn)
          | none =>
              refine (Option.bind_eq_none_iff.mpr fun k hk => ?_).symm
              rw [word?_eq_none_iff] at hn ⊢
              exact fun hfits => hn (Sign.fits_of_le (le_of_foldlM_shift hk) hfits)

theorem readWordDigits_eq (sign : Sign) (cs : List Char) :
    readWordDigits sign cs = (readDigits cs).bind fun n => word? (sign.of n) := by
  rw [readWordDigits, readDigits_eq]
  split
  · rfl
  · exact foldlM_shiftWord sign.of_zero.symm

theorem readWord_eq_bind (cs : List Char) : readWord cs = (readSigned cs).bind word? := by
  unfold readWord
  split
  · next cs =>
    have hread : readSigned ('+' :: cs) = (readDigits cs).map Sign.plus.of := rfl
    rw [readWordDigits_eq, hread, Option.bind_map, Function.comp_def]
  · next cs =>
    have hread : readSigned ('-' :: cs) = (readDigits cs).map Sign.minus.of := rfl
    rw [readWordDigits_eq, hread, Option.bind_map, Function.comp_def]
  · next hplus hminus =>
    have hread : readSigned cs = (readDigits cs).map Sign.unsigned.of :=
      readSigned.eq_3 cs hplus hminus
    rw [readWordDigits_eq, hread, Option.bind_map, Function.comp_def]

/-- Reading into a word with checks gives the number itself if that fits, and nothing if not. -/
theorem readWord_eq (cs : List Char) : (readWord cs).map Int64.toInt = readSigned64 cs := by
  rw [readWord_eq_bind, readSigned64]
  cases readSigned cs with
  | none => rfl
  | some i => exact map_toInt_word? i

end GadgetModes.Text
