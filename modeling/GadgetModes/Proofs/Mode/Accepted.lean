import GadgetModes.Proofs.Mode.Validation
import GadgetModes.Proofs.Text.Trim

/-!
# What is accepted

Whatever a text holds, a record that is read off it has no empty text and none with a blank at
either end, and meets all requirements. The texts are neat because of how one value is looked up,
so nothing about the text as a whole matters here (`Description.neat_of_mem_texts`).

Whether the tethering technology is read decides about this one text and nothing else, as no
requirement asks for it (`Requirement.met_withoutTethering`).
-/

namespace GadgetModes.Mode

open GadgetModes.Text

/-! ## Texts -/

/-- The texts that fields have room for, those of the further writes included. -/
def Fields.texts (f : Fields) : List (Option String) :=
  [f.name, f.module, f.networkInterface, f.sysfsPath, f.sysfsValue, f.sysfsResetValue,
      f.idProduct, f.idVendorOverride, f.tetheringTechnology]
    ++ f.extraSysfs.toList.flatMap fun write => [write.path, write.value]

namespace Description

variable {options : Options} {file : KeyFile}

theorem neat_of_text? {block : Block} {key text : String} (h : text? file block key = some text) :
    Neat text := by
  obtain ⟨hvalue, hne⟩ := Option.filter_eq_some_iff.mp h
  obtain ⟨value, -, rfl⟩ := Option.map_eq_some_iff.mp hvalue
  exact neat_trimmed (by simpa using hne)

/-- Every text of the fields is one that the key file gives a key. -/
theorem exists_text?_of_mem_texts {text : String}
    (h : some text ∈ (fields options file).texts) :
    ∃ block key, text? file block key = some text := by
  rcases List.mem_append.mp h with hown | hwrite
  · simp only [fields, List.mem_cons, List.not_mem_nil, or_false] at hown
    rcases hown with h | h | h | h | h | h | h | h | h
    on_goal 9 =>
      split at h
      · exact ⟨_, _, h.symm⟩
      · cases h
    all_goals exact ⟨_, _, h.symm⟩
  · obtain ⟨write, hwrite, htext⟩ := List.mem_flatMap.mp hwrite
    obtain ⟨slot, hslot, rfl⟩ := List.mem_iff_getElem.mp hwrite
    simp only [fields, extraSysfs, Vector.getElem_toList, Vector.getElem_ofFn, List.mem_cons,
      List.not_mem_nil, or_false] at htext
    rcases htext with h | h <;> exact ⟨_, _, h.symm⟩

/-- The texts that a key file gives are neat, whatever the key file. -/
theorem neat_of_mem_texts {text : String} (h : some text ∈ (fields options file).texts) :
    Neat text := by
  obtain ⟨block, key, htext⟩ := exists_text?_of_mem_texts h
  exact neat_of_text? htext

end Description

/-! ## Tethering -/

def Fields.withoutTethering (f : Fields) : Fields :=
  { f with tetheringTechnology := none }

theorem Requirement.met_withoutTethering (q : Requirement) (f : Fields) :
    q.Met f.withoutTethering ↔ q.Met f := by
  cases q <;> exact Iff.rfl

theorem Requirement.firstUnmet?_withoutTethering (f : Fields) :
    firstUnmet? f.withoutTethering = firstUnmet? f := by
  simp only [firstUnmet?, met_withoutTethering]

theorem Description.fields_off (file : KeyFile) :
    fields { tethering := false } file = (fields { tethering := true } file).withoutTethering :=
  rfl

namespace Record

variable {options : Options} {source content : String} {r : Record}

theorem ofText_of_keyFile {file : KeyFile} (hread : KeyFile.read content = .ok file) :
    ofText options source content = ofFields source (Description.fields options file) := by
  rw [ofText, Description.ofText, hread]
  rfl

theorem ofText_of_malformed {fault : KeyFile.Fault} (hread : KeyFile.read content = .error fault) :
    ofText options source content = .error (.unreadable (.malformed fault)) := by
  rw [ofText, Description.ofText, hread]
  rfl

theorem ofText_eq_ok_iff :
    ofText options source content = .ok r ↔
      ∃ file, KeyFile.read content = .ok file
        ∧ ofFields source (Description.fields options file) = .ok r := by
  cases hread : KeyFile.read content with
  | error fault => simp [ofText_of_malformed hread]
  | ok file => simp [ofText_of_keyFile hread]

/-- Fields with and without the tethering technology are rejected alike, or both give a
record. -/
theorem ofFields_withoutTethering (source : String) (f : Fields) :
    (∃ rejection, ofFields source f = .error rejection
        ∧ ofFields source f.withoutTethering = .error rejection)
      ∨ ∃ r s, ofFields source f = .ok r ∧ ofFields source f.withoutTethering = .ok s := by
  have hsame := Requirement.firstUnmet?_withoutTethering f
  cases hfirst : Requirement.firstUnmet? f with
  | some q =>
    exact .inl ⟨q.rejection, ofFields_eq_error hfirst, ofFields_eq_error (hsame.trans hfirst)⟩
  | none =>
    obtain ⟨r, hr⟩ := exists_ofFields_eq_ok_iff.mpr (Requirement.firstUnmet?_eq_none_iff.mp hfirst)
    obtain ⟨s, hs⟩ := exists_ofFields_eq_ok_iff.mpr
      (Requirement.firstUnmet?_eq_none_iff.mp (hsame.trans hfirst))
    exact .inr ⟨r, s, hr, hs⟩

/-! ## Acceptance -/

/-- A record that is read off a text has a name and a module, no empty text and none with a blank
at either end, and whatever its other fields require; nothing is applied for it. With and without
tethering, the text is rejected for the same reason, or it gives two records that are the same but
for the tethering technology. -/
theorem ofText_accepted (source content : String) :
    (∀ options r, ofText options source content = .ok r →
        r.fields.name = some r.name ∧ r.name ≠ ""
          ∧ r.fields.module = some r.module ∧ r.module ≠ ""
          ∧ (∀ text, some text ∈ r.fields.texts → Neat text)
          ∧ (r.fields.network = true → r.fields.networkInterface.isSome)
          ∧ (r.fields.sysfsPath.isSome → r.fields.sysfsValue.isSome)
          ∧ (r.fields.sysfsResetValue.isSome → r.fields.sysfsPath.isSome)
          ∧ r.cache.isEmpty = true)
      ∧ ((∃ rejection, ofText { tethering := true } source content = .error rejection
            ∧ ofText { tethering := false } source content = .error rejection)
        ∨ ∃ on off, ofText { tethering := true } source content = .ok on
            ∧ ofText { tethering := false } source content = .ok off
            ∧ off.fields = { on.fields with tetheringTechnology := none }
            ∧ off.source = on.source ∧ off.cache = on.cache) := by
  constructor
  · intro options r h
    obtain ⟨file, -, hr⟩ := ofText_eq_ok_iff.mp h
    obtain ⟨-, hfields, hcache⟩ := ofFields_eq_ok_iff.mp hr
    have hmet := r.met
    refine ⟨r.fields_name, ?_, r.fields_module, ?_, ?_, ?_, ?_, ?_, ?_⟩
    · rintro hempty
      exact (hmet .name).2 (r.fields_name.trans (congrArg some hempty))
    · rintro hempty
      exact (hmet .module).2 (r.fields_module.trans (congrArg some hempty))
    · rw [hfields]
      exact fun text => Description.neat_of_mem_texts
    · simpa only [Option.isSome_iff_ne_none, Requirement.Met] using hmet .networkInterface
    · simpa only [Option.isSome_iff_ne_none, Requirement.Met] using hmet .sysfsValue
    · simpa only [Option.isSome_iff_ne_none, Requirement.Met] using hmet .sysfsPath
    · rw [hcache]
      rfl
  · cases hread : KeyFile.read content with
    | error fault => exact .inl ⟨_, ofText_of_malformed hread, ofText_of_malformed hread⟩
    | ok file =>
      rw [ofText_of_keyFile hread, ofText_of_keyFile hread, Description.fields_off]
      refine (ofFields_withoutTethering source _).imp_right ?_
      rintro ⟨on, off, hon, hoff⟩
      obtain ⟨hsource, hfields, hcache⟩ := ofFields_eq_ok_iff.mp hon
      obtain ⟨hsource', hfields', hcache'⟩ := ofFields_eq_ok_iff.mp hoff
      exact ⟨on, off, hon, hoff, by rw [hfields', hfields]; rfl, hsource'.trans hsource.symm,
        hcache'.trans hcache.symm⟩

/-- A text with blanks of several kinds around its values, and a block that comes twice. -/
def spacedText : String :=
  "[mode]\nname =\u00a0a b\u2003\nmodule:b\n[options]\nconnman_tethering= usb\t\n" ++
    "android_extra_sysfs_path2=\u3000/p\n[mode]\nname=\n"

def spacedFields : Fields where
  name := some "a b"
  module := some "b"
  extraSysfs := #v[{}, ⟨some "/p", none⟩, {}, {}]
  tetheringTechnology := some "usb"

theorem read_spacedText : KeyFile.read spacedText =
    .ok ⟨[.header "mode", .entry "name" "a b", .entry "module" "b", .header "options",
      .entry "connman_tethering" "usb", .entry "android_extra_sysfs_path2" "/p",
      .header "mode", .entry "name" ""]⟩ := by
  decide +kernel

/-- Without tethering the same record is read, less the technology. -/
theorem ofText_accepted_spacedText :
    ∃ on, ofText { tethering := true } "a.ini" spacedText = .ok on
      ∧ on.fields = spacedFields
      ∧ (∀ text, some text ∈ on.fields.texts → Neat text)
      ∧ ∃ off, ofText { tethering := false } "a.ini" spacedText = .ok off
          ∧ off.fields = { spacedFields with tetheringTechnology := none } := by
  have hon : ofText { tethering := true } "a.ini" spacedText =
      .ok ⟨"a.ini", spacedFields, by decide, {}⟩ :=
    ofText_eq_ok_iff.mpr ⟨_, read_spacedText, ofFields_eq_ok_iff.mpr ⟨rfl, by decide, rfl⟩⟩
  obtain ⟨haccepted, hsame⟩ := ofText_accepted "a.ini" spacedText
  obtain ⟨-, -, -, -, hneat, -⟩ := haccepted _ _ hon
  refine ⟨_, hon, rfl, hneat, ?_⟩
  rcases hsame with ⟨rejection, hrejected, -⟩ | ⟨on, off, hon', hoff, hfields, -⟩
  · cases hon.symm.trans hrejected
  · obtain rfl := Except.ok.inj (hon.symm.trans hon')
    exact ⟨off, hoff, hfields⟩

end Record

end GadgetModes.Mode
