import GadgetModes.Mode.Description
import GadgetModes.Proofs.Text.Numerals

/-!
# Flags

A flag is on if its value is a numeral that stands for a number other than zero, which a signed
word of 64 bits can hold; blanks around the numeral do not count. Any other value leaves the flag
off (`flag_exact`).
-/

namespace GadgetModes.Mode.Description

open GadgetModes.Text

/-- A value that turns a flag on: a numeral for a number that is not zero and fits a signed word of
64 bits, with nothing but blanks around it. -/
structure TurnsOn (value : String) (n : Numeral) : Prop where
  written : ∃ front back, AllBlank front ∧ AllBlank back
    ∧ value.toList = front ++ n.text ++ back
  nonzero : n.value ≠ 0
  least : -2 ^ 63 ≤ n.value
  greatest : n.value ≤ 2 ^ 63 - 1

theorem isSet_iff {value : String} : isSet value = true ↔ ∃ n : Numeral, TurnsOn value n := by
  rw [isSet, Option.any_eq_true]
  simp only [readSigned64_eq_some_iff, ne_eq, decide_eq_true_eq]
  constructor
  · rintro ⟨_, ⟨⟨n, htext, rfl⟩, hleast, hgreatest⟩, hzero⟩
    have hwritten := (trim_eq_iff fun c => n.isBlank_of_mem_text).mp htext.symm
    exact ⟨n, hwritten, hzero, hleast, hgreatest⟩
  · rintro ⟨n, hwritten, hzero, hleast, hgreatest⟩
    have htrim := (trim_eq_iff fun c => n.isBlank_of_mem_text).mpr hwritten
    exact ⟨n.value, ⟨⟨n, htrim.symm, rfl⟩, hleast, hgreatest⟩, hzero⟩

example : isSet "\t-9223372036854775808 " = true := by decide

example : isSet "9223372036854775808" = false := by decide

/-- The value may as well be read into a word from its first digit on. -/
theorem isSet_eq_readWord (value : String) :
    isSet value = (readWord (trim value.toList)).any (· ≠ 0) := by
  rw [isSet, ← readWord_eq]
  cases readWord (trim value.toList) with
  | none => rfl
  | some w =>
      have hzero : w.toInt = 0 ↔ w = 0 := by
        rw [← Int64.toInt_zero, Int64.toInt_inj]
      simp [hzero]

/-! ## The value of a key -/

section Keys

variable {file : KeyFile} {name key value : String} {before after : List (String × String)}

/-- The last entry of a key in its block gives the value. -/
theorem value?_of_block (hblock : file.block name = before ++ (key, value) :: after)
    (hafter : ∀ entry ∈ after, entry.1 ≠ key) : file.value? name key = some value := by
  have hnone : after.filter (·.1 = key) = [] :=
    List.filter_eq_nil_iff.mpr fun entry hentry => by simpa using hafter entry hentry
  have hkept : (file.block name).filter (·.1 = key) =
      before.filter (·.1 = key) ++ [(key, value)] := by simp [hblock, hnone]
  rw [KeyFile.value?, hkept, List.getLast?_append]
  rfl

theorem value?_eq_none (h : ∀ entry ∈ file.block name, entry.1 ≠ key) :
    file.value? name key = none := by
  have hnone : (file.block name).filter (·.1 = key) = [] :=
    List.filter_eq_nil_iff.mpr fun entry hentry => by simpa using h entry hentry
  rw [KeyFile.value?, hnone]
  rfl

end Keys

/-! ## Flags of files -/

/-- A flag is on if its value is a numeral other than zero that a signed word of 64 bits holds,
with blanks around it or none, and off for every other value and without one. To read the numeral
digit by digit in such a word, and give up where a step leads out of it, comes to the same. The
value is that of the last entry with the key in the block, whatever stands in the file besides. -/
theorem flag_exact (file : KeyFile) (block : Block) (key : String) :
    (flag file block key = true ↔
      ∃ value, file.value? block.name key = some value ∧ ∃ n : Numeral, TurnsOn value n)
    ∧ flag file block key =
      ((file.value? block.name key).bind fun value => readWord (trim value.toList)).any (· ≠ 0)
    ∧ (∀ before value after, file.block block.name = before ++ (key, value) :: after →
      (∀ entry ∈ after, entry.1 ≠ key) →
        (flag file block key = true ↔ ∃ n : Numeral, TurnsOn value n))
    ∧ ((∀ entry ∈ file.block block.name, entry.1 ≠ key) → flag file block key = false) := by
  refine ⟨?_, ?_, fun before value after hblock hafter => ?_, fun habsent => ?_⟩
  · rw [flag]
    cases file.value? block.name key with
    | none => simp
    | some value =>
        rw [Option.any_some, isSet_iff]
        simp
  · rw [flag]
    cases file.value? block.name key with
    | none => rfl
    | some value => exact isSet_eq_readWord value
  · rw [flag, value?_of_block hblock hafter, Option.any_some, isSet_iff]
  · rw [flag, value?_eq_none habsent, Option.any_none]

/-- A flag with a value in another block and two in its own. -/
def repeatedFlag : KeyFile where
  items := [.header "mode", .entry "nat" "0", .header "options", .entry "nat" "x",
    .entry "nat" "+07", .entry "dhcp_server" "0"]

/-- Of two values of a key the later one counts, and only those of its own block do. -/
theorem flag_exact_repeated :
    KeyFile.read "[mode]\nnat=0\n[options]\nnat=x\nnat= +07\t\ndhcp_server=0\n" =
        .ok repeatedFlag
      ∧ flag repeatedFlag .options "nat" = true
      ∧ flag repeatedFlag .mode "dhcp_server" = false := by
  obtain ⟨-, -, hwritten, -⟩ := flag_exact repeatedFlag .options "nat"
  obtain ⟨-, -, -, habsent⟩ := flag_exact repeatedFlag .mode "dhcp_server"
  refine ⟨by decide +kernel, ?_, habsent (by decide)⟩
  refine (hwritten [("nat", "x")] "+07" [("dhcp_server", "0")] (by decide) (by decide)).mpr
    ⟨⟨.plus, ['0', '7'], by decide, by simp [IsDigit]⟩, ?_⟩
  exact { written := ⟨[], [], by decide, by decide, by decide⟩, nonzero := by decide,
          least := by decide, greatest := by decide }

end GadgetModes.Mode.Description
