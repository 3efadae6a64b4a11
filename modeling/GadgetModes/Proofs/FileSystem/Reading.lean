import GadgetModes.FileSystem.Access
import GadgetModes.Text.Utf8

/-!
# Reading files

Reading a path gives the bytes of the regular file that it leads to (`bytes_eq_ok_iff`), and the
text whose bytes these are, if they are those of a text (`decode_eq_ok_iff`, `text_eq_ok_iff`).
-/

namespace GadgetModes.FileSystem

open GadgetModes.Text

variable {fs : FileSystem} {path content : String} {bytes : List UInt8}

theorem bytes_eq_ok_iff :
    fs.bytes path = .ok bytes ↔
      ∃ place, fs.resolve path = .ok place ∧ fs.node? place = some (.file bytes) := by
  rw [FileSystem.bytes]
  cases fs.resolve path with
  | error fault => simp
  | ok place =>
    simp only [Except.ok.injEq, exists_eq_left']
    split
    · next heq => simp [heq]
    · next heq => simp [heq]
    · next heq => simp [heq]
    · next hnofile _ _ => simpa using hnofile bytes

/-- Bytes are read as the text whose bytes they are. -/
theorem decode_eq_ok_iff : decode bytes = .ok content ↔ utf8 content = bytes := by
  rw [decode, utf8, String.toUTF8_eq_toByteArray]
  constructor
  · intro h
    split at h
    · next text htext =>
      obtain rfl := Except.ok.inj h
      rw [String.fromUTF8?] at htext
      split at htext
      · obtain rfl := Option.some.inj htext
        rfl
      · cases htext
    · cases h
  · rintro rfl
    have hread : String.fromUTF8? content.toByteArray = some content :=
      dif_pos content.isValidUTF8
    simp [hread]

theorem decode_of_no_text (h : ∀ content, utf8 content ≠ bytes) :
    decode bytes = .error .notUtf8 := by
  rw [decode]
  split
  · next text htext => exact absurd (decode_eq_ok_iff.mp (by rw [decode, htext])) (h text)
  · rfl

theorem text_eq_ok_iff :
    fs.text path = .ok content ↔
      ∃ place, fs.resolve path = .ok place ∧ fs.node? place = some (.file (utf8 content)) := by
  rw [text, ← bytes_eq_ok_iff]
  cases fs.bytes path with
  | error fault => simp [Except.bind]
  | ok bytes => exact decode_eq_ok_iff.trans (by rw [Except.ok.injEq, eq_comm])

theorem text_of_resolve_fault {fault : IoFault} (h : fs.resolve path = .error fault) :
    fs.text path = .error fault := by
  rw [text, bytes, h]
  rfl

end GadgetModes.FileSystem
