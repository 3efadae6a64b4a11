import GadgetModes.Proofs.Config.Overlay
import GadgetModes.Proofs.FileSystem.Reading
import GadgetModes.Proofs.Toml.Limits

/-!
# Defaults and what is said in their place

A configuration is the defaults, with the five values in their place that a document gives
(`overlaid`). It is refused if one of these is not of its type (`Fits`), or if the document is
beyond the limits on its size; nothing else in a document matters, as long as what should be a
table is one. A file is read like its text, one that is not there stands for the defaults, and
every other fault is a failure (`ofText_overlay`).
-/

namespace GadgetModes.Config

open GadgetModes.Text GadgetModes.Toml

/-! ## Known keys -/

inductive Kind where
  | text
  | truth

def Kind.takes : Kind → Value → Bool
  | text, .string _ => true
  | truth, .boolean _ => true
  | _, _ => false

theorem Kind.text_takes_iff {v : Value} : text.takes v ↔ ∃ text, v = .string text := by
  cases v <;> simp [takes]

theorem Kind.truth_takes_iff {v : Value} : truth.takes v ↔ ∃ b, v = .boolean b := by
  cases v <;> simp [takes]

/-- The tables that a configuration knows, with their keys. -/
def sections : List (String × List (String × Kind)) :=
  [("modes", [("dir", .text), ("diag_dir", .text), ("diagnostic", .truth)]),
    ("features", [("tethering", .truth)]),
    ("logging", [("level", .text)])]

/-- What is known is a table, if it is there. -/
def Tabled (t : Table) : Prop :=
  ∀ part ∈ sections, ∀ v, t.get? part.1 = some v → v.isTable

/-- Every key that is known and present has a value of its kind. -/
def Fits (t : Table) : Prop :=
  ∀ part ∈ sections, ∀ key ∈ part.2, ∀ v, t.setting? part.1 key.1 = some v → key.2.takes v

/-- The same is said of every key that is known. -/
def Agree (t u : Table) : Prop :=
  ∀ part ∈ sections, ∀ key ∈ part.2, t.setting? part.1 key.1 = u.setting? part.1 key.1

instance (t : Table) : Decidable (Tabled t) :=
  inferInstanceAs (Decidable (∀ part ∈ sections, _))

instance (t : Table) : Decidable (Fits t) :=
  inferInstanceAs (Decidable (∀ part ∈ sections, _))

/-- The defaults, with what a document says in their place. -/
def overlaid (t : Table) : Config where
  modes.dir := ((t.setting? "modes" "dir").bind Value.text?).getD ({} : Modes).dir
  modes.diagDir := ((t.setting? "modes" "diag_dir").bind Value.text?).getD ({} : Modes).diagDir
  modes.diagnostic :=
    ((t.setting? "modes" "diagnostic").bind Value.truth?).getD ({} : Modes).diagnostic
  features.tethering :=
    ((t.setting? "features" "tethering").bind Value.truth?).getD ({} : Features).tethering
  logging.level := ((t.setting? "logging" "level").bind Value.text?).getD ({} : Logging).level

/-! ## What the keys set -/

theorem modesSchema_sets :
    modesSchema.Sets "dir" (·.dir) (fun v _ new => v.text? = some new)
      ∧ modesSchema.Sets "diag_dir" (·.diagDir) (fun v _ new => v.text? = some new)
      ∧ modesSchema.Sets "diagnostic" (·.diagnostic) (fun v _ new => v.truth? = some new) := by
  refine ⟨⟨?_, ?_, ?_⟩, ⟨?_, ?_, ?_⟩, ?_, ?_, ?_⟩ <;>
    simp [modesSchema, textField_set, truthField_set, Value.text?_eq_some_iff,
      Value.truth?_eq_some_iff, -Bool.exists_bool, -Bool.forall_bool]

theorem featuresSchema_sets :
    featuresSchema.Sets "tethering" (·.tethering) (fun v _ new => v.truth? = some new) := by
  refine ⟨?_, ?_, ?_⟩ <;>
    simp [featuresSchema, truthField_set, Value.truth?_eq_some_iff, -Bool.exists_bool,
      -Bool.forall_bool]

theorem loggingSchema_sets :
    loggingSchema.Sets "level" (·.level) (fun v _ new => v.text? = some new) := by
  refine ⟨?_, ?_, ?_⟩ <;> simp [loggingSchema, textField_set, Value.text?_eq_some_iff]

theorem schema_sets :
    schema.Sets "modes" (·.modes) (fun v old new => modesSchema.set v old = .ok new)
      ∧ schema.Sets "features" (·.features) (fun v old new => featuresSchema.set v old = .ok new)
      ∧ schema.Sets "logging" (·.logging) (fun v old new => loggingSchema.set v old = .ok new) := by
  refine ⟨⟨?_, ?_, ?_⟩, ⟨?_, ?_, ?_⟩, ?_, ?_, ?_⟩ <;> simp [schema, structField_set]

variable {t : Table} {c : Config}

theorem eq_overlaid_of_ofTable (ht : t.Distinct) (htables : Tabled t) (hc : ofTable t = .ok c) :
    c = overlaid t := by
  obtain ⟨hmodes, hfeatures, hlogging⟩ := schema_sets
  obtain ⟨hdir, hdiagDir, hdiagnostic⟩ := modesSchema_sets
  have hmodesPart := hmodes.overlay_under ht (htables _ (.head _)) hc
  have hfeaturesPart := hfeatures.overlay_under ht (htables _ (.tail _ (.head _))) hc
  have hloggingPart := hlogging.overlay_under ht (htables _ (.tail _ (.tail _ (.head _)))) hc
  have hmodesUnder := ht.under "modes"
  have hdirValue := hdir.get_eq hmodesUnder hmodesPart
  have hdiagDirValue := hdiagDir.get_eq hmodesUnder hmodesPart
  have hdiagnosticValue := hdiagnostic.get_eq hmodesUnder hmodesPart
  have htetheringValue := featuresSchema_sets.get_eq (ht.under "features") hfeaturesPart
  have hlevelValue := loggingSchema_sets.get_eq (ht.under "logging") hloggingPart
  obtain ⟨⟨dir, diagDir, diagnostic⟩, ⟨tethering⟩, ⟨level⟩⟩ := c
  simp only [overlaid, Config.mk.injEq, Modes.mk.injEq, Features.mk.injEq, Logging.mk.injEq]
  exact ⟨⟨hdirValue, hdiagDirValue, hdiagnosticValue⟩, htetheringValue, hlevelValue⟩

example : overlaid [] = {} := rfl

/-! ## What the keys take -/

theorem parts_typed :
    modesSchema.Typed (fun _ => True) (·.takes ·)
        [("dir", Kind.text), ("diag_dir", .text), ("diagnostic", .truth)]
      ∧ featuresSchema.Typed (fun _ => True) (·.takes ·) [("tethering", Kind.truth)]
      ∧ loggingSchema.Typed (fun _ => True) (·.takes ·) [("level", Kind.text)] := by
  refine ⟨⟨by decide, ?_, ?_⟩, ⟨by decide, ?_, ?_⟩, by decide, ?_, ?_⟩ <;>
    simp [modesSchema, featuresSchema, loggingSchema, textField_set, truthField_set,
      Kind.text_takes_iff, Kind.truth_takes_iff, -Bool.exists_bool, -Bool.forall_bool]

/-- The keys of a table have values of their kinds. -/
def Takes (keys : List (String × Kind)) (v : Value) : Prop :=
  ∀ key ∈ keys, ∀ w, v.entries.get? key.1 = some w → key.2.takes w

theorem exists_structField_set_iff {α β : Type} {key : String} {part : Schema β} {get : α → β}
    {put : β → α → α} {keys : List (String × Kind)}
    (h : part.Typed (fun _ => True) (·.takes ·) keys) {v : Value}
    (hv : v.isTable ∧ v.Distinct) (a : α) :
    (∃ b, (structField key part get put).set v a = .ok b) ↔ Takes keys v := by
  obtain ⟨htable, hu⟩ := hv
  obtain ⟨origin, u, rfl⟩ := Value.isTable_iff.mp htable
  rw [Value.distinct_table] at hu
  have hset : (∃ b, (structField key part get put).set (.table origin u) a = .ok b) ↔
      ∃ c, part.overlay u (get a) = .ok c := by
    simp only [structField_set]
    exact ⟨fun ⟨_, c, hc, _⟩ => ⟨c, hc⟩, fun ⟨c, hc⟩ => ⟨_, c, hc, rfl⟩⟩
  exact hset.trans (h.exists_overlay_iff hu (fun _ _ _ _ => trivial) (get a))

theorem schema_typed : schema.Typed (fun v => v.isTable ∧ v.Distinct) Takes sections where
  keys := by decide
  known := by simp [sections, schema]
  takes := by
    obtain ⟨hmodes, hfeatures, hlogging⟩ := parts_typed
    intro field hfield
    simp only [schema, List.mem_cons, List.not_mem_nil, or_false] at hfield
    obtain rfl | rfl | rfl := hfield
    · exact ⟨_, .head _, rfl, fun v hv => exists_structField_set_iff hmodes hv⟩
    · exact ⟨_, .tail _ (.head _), rfl, fun v hv => exists_structField_set_iff hfeatures hv⟩
    · exact ⟨_, .tail _ (.tail _ (.head _)), rfl,
        fun v hv => exists_structField_set_iff hlogging hv⟩

/-- A document gives a configuration if every key that is known and present fits. -/
theorem exists_ofTable_iff (ht : t.Distinct) (htables : Tabled t) :
    (∃ c, ofTable t = .ok c) ↔ Fits t := by
  have htabled : ∀ part ∈ sections, ∀ v, t.get? part.1 = some v → v.isTable ∧ v.Distinct :=
    fun part hpart v hget => ⟨htables part hpart v hget, ht.value hget⟩
  rw [ofTable, schema_typed.exists_overlay_iff ht htabled]
  simp only [Takes, Fits, Table.setting?_eq_some_iff]
  constructor
  · rintro hall part hpart key hkey w ⟨v, hv, hw⟩
    exact hall part hpart v hv key hkey w hw
  · intro hall part hpart v hv key hkey w hw
    exact hall part hpart key hkey w ⟨v, hv, hw⟩

/-! ## Texts and files -/

section Texts

variable {text : String} {sts : List Statement} (hdoc : Document.Says text sts t)
include hdoc

theorem ofText_of_within (hwithin : Document.Within .usual sts) :
    ofText text = (ofTable t).mapError .wrongType := by
  rw [ofText, Document.read_eq_some_iff.mpr ⟨sts, hdoc, hwithin⟩]

theorem ofText_of_beyond (hbeyond : ¬Document.Within .usual sts) :
    ofText text = .error .noDocument := by
  rw [ofText, hdoc.read_eq_none hbeyond]

variable (htables : Tabled t)
include htables

theorem ofText_of_fits (hwithin : Document.Within .usual sts) (hfits : Fits t) :
    ofText text = .ok (overlaid t) := by
  have ht := Document.distinct_of_carryOut hdoc.table
  obtain ⟨c, hc⟩ := (exists_ofTable_iff ht htables).mpr hfits
  rw [ofText_of_within hdoc hwithin, hc, eq_overlaid_of_ofTable ht htables hc]
  rfl

theorem ofText_of_not_fits (hwithin : Document.Within .usual sts) (hfits : ¬Fits t) :
    ∃ fault, ofText text = .error (.wrongType fault) := by
  have ht := Document.distinct_of_carryOut hdoc.table
  rw [ofText_of_within hdoc hwithin]
  cases hc : ofTable t with
  | error fault => exact ⟨fault, rfl⟩
  | ok c => exact absurd ((exists_ofTable_iff ht htables).mp ⟨c, hc⟩) hfits

/-- A document is a configuration if it is within the limits and what it says fits. -/
theorem ofText_cases :
    Document.Within .usual sts ∧ Fits t ∧ ofText text = .ok (overlaid t)
      ∨ Document.Within .usual sts ∧ ¬Fits t ∧ (∃ fault, ofText text = .error (.wrongType fault))
      ∨ ¬Document.Within .usual sts ∧ ofText text = .error .noDocument := by
  by_cases hwithin : Document.Within .usual sts
  · by_cases hfits : Fits t
    · exact .inl ⟨hwithin, hfits, ofText_of_fits hdoc htables hwithin hfits⟩
    · exact .inr (.inl ⟨hwithin, hfits, ofText_of_not_fits hdoc htables hwithin hfits⟩)
  · exact .inr (.inr ⟨hwithin, ofText_of_beyond hdoc hwithin⟩)

end Texts

/-- What is said of the known keys is all that matters. -/
theorem overlaid_congr {u : Table} (h : Agree u t) : overlaid u = overlaid t := by
  simp only [Agree, sections, List.forall_mem_cons, List.not_mem_nil, false_imp_iff, implies_true,
    and_true] at h
  obtain ⟨⟨hdir, hdiagDir, hdiagnostic⟩, htethering, hlevel⟩ := h
  rw [overlaid, hdir, hdiagDir, hdiagnostic, htethering, hlevel, overlaid]

theorem fits_congr {u : Table} (h : Agree u t) : Fits u ↔ Fits t := by
  rw [Fits, Fits]
  refine forall₂_congr fun part hpart => forall₂_congr fun key hkey => ?_
  rw [h part hpart key hkey]

section Files

variable {fs : FileSystem} {path : String}

theorem load_of_text {text : String} (h : fs.text path = .ok text) :
    (load fs path).value = (ofText text).mapError fun fault =>
      .config ("Invalid " ++ path ++ ": " ++ fault.message) := by
  rw [load, h]
  rfl

theorem load_of_fault {fault : IoFault} (h : fs.text path = .error fault) :
    (load fs path).value = if fault = .system .noEntry then .ok {}
      else .error (.config ("Failed to read " ++ path ++ ": " ++ fault.message)) := by
  by_cases hmissing : fault = .system .noEntry
  · subst hmissing
    rw [load, h, if_pos rfl]
    rfl
  · rw [load, h, if_neg hmissing]
    split
    · next heq => cases heq
    · next heq => exact absurd (Except.error.inj heq) hmissing
    · next heq =>
      obtain rfl := Except.error.inj heq
      rfl

/-- What a configuration that was loaded says: what the document says that was found, or nothing
of its own. -/
structure FoundAt (fs : FileSystem) (path : String) (c : Config) : Prop where
  written : ∀ place text sts t, fs.resolve path = .ok place →
    fs.node? place = some (.file (utf8 text)) → Document.Says text sts t → Tabled t →
      Document.Within .usual sts ∧ Fits t ∧ c = overlaid t
  missing : fs.resolve path = .error (.system .noEntry) → c = {}

theorem foundAt_of_load (hload : (load fs path).value = .ok c) : FoundAt fs path c where
  written place text sts t hplace hfile hdoc htables := by
    rw [load_of_text (FileSystem.text_eq_ok_iff.mpr ⟨place, hplace, hfile⟩)] at hload
    rcases ofText_cases hdoc htables with
      ⟨hwithin, hfits, hok⟩ | ⟨-, -, fault, hfault⟩ | ⟨-, hfault⟩
    · rw [hok] at hload
      exact ⟨hwithin, hfits, (Except.ok.inj hload).symm⟩
    · rw [hfault] at hload
      cases hload
    · rw [hfault] at hload
      cases hload
  missing hmissing := by
    rw [load_of_fault (FileSystem.text_of_resolve_fault hmissing), if_pos rfl] at hload
    exact (Except.ok.inj hload).symm

end Files

/-- A document in which what is known is a table gives the defaults, with what it says in their
place, if it is within the limits and all that is known is of its kind. Otherwise it gives no
configuration: it counts as no document at all if it is beyond the limits. Nothing else in it
matters, nor the order. A file with its text gives the same or a failure, a file that is not
there gives the defaults, and every other fault in reading it is a failure. -/
theorem ofText_overlay {text : String} {sts : List Statement} {t : Table}
    (hdoc : Document.Says text sts t) (htables : Tabled t) :
    ((∃ c, ofText text = .ok c) ↔ Document.Within .usual sts ∧ Fits t)
      ∧ (∀ c, ofText text = .ok c → c = overlaid t)
      ∧ (¬Document.Within .usual sts → ofText text = .error .noDocument)
      ∧ (Document.Within .usual sts → ¬Fits t →
          ∃ fault, ofText text = .error (.wrongType fault))
      ∧ (∀ text' sts' u, Document.Says text' sts' u → Tabled u → Agree u t →
          (Document.Within .usual sts' ↔ Document.Within .usual sts) →
            (ofText text').toOption = (ofText text).toOption)
      ∧ ∀ (fs : FileSystem) (path : String),
          (∀ place, fs.resolve path = .ok place → fs.node? place = some (.file (utf8 text)) →
            (load fs path).value = (ofText text).mapError fun fault =>
              .config ("Invalid " ++ path ++ ": " ++ fault.message))
          ∧ (fs.resolve path = .error (.system .noEntry) → (load fs path).value = .ok {})
          ∧ ∀ fault, fs.text path = .error fault →
              (load fs path).value = if fault = .system .noEntry then .ok {}
                else .error (.config ("Failed to read " ++ path ++ ": " ++ fault.message)) := by
  have hcases := ofText_cases hdoc htables
  refine ⟨⟨?_, ?_⟩, ?_, ofText_of_beyond hdoc, ofText_of_not_fits hdoc htables, ?_,
    fun fs path => ⟨?_, ?_, ?_⟩⟩
  · rintro ⟨c, hc⟩
    rcases hcases with ⟨hwithin, hfits, -⟩ | ⟨-, -, fault, hfault⟩ | ⟨-, hfault⟩
    · exact ⟨hwithin, hfits⟩
    · cases hc.symm.trans hfault
    · cases hc.symm.trans hfault
  · rintro ⟨hwithin, hfits⟩
    exact ⟨_, ofText_of_fits hdoc htables hwithin hfits⟩
  · intro c hc
    rcases hcases with ⟨-, -, hok⟩ | ⟨-, -, fault, hfault⟩ | ⟨-, hfault⟩
    · exact Except.ok.inj (hc.symm.trans hok)
    · cases hc.symm.trans hfault
    · cases hc.symm.trans hfault
  · intro text' sts' u hdoc' htables' hsame hsize
    rcases hcases with ⟨hwithin, hfits, hok⟩ | ⟨hwithin, hfits, fault, hfault⟩ | ⟨hbeyond, hfault⟩
    · rw [hok, ofText_of_fits hdoc' htables' (hsize.mpr hwithin) ((fits_congr hsame).mpr hfits),
        overlaid_congr hsame]
    · obtain ⟨fault', hfault'⟩ := ofText_of_not_fits hdoc' htables' (hsize.mpr hwithin)
        fun h => hfits ((fits_congr hsame).mp h)
      rw [hfault, hfault']
      rfl
    · rw [hfault, ofText_of_beyond hdoc' fun h => hbeyond (hsize.mp h)]
  · intro place hplace hfile
    exact load_of_text (FileSystem.text_eq_ok_iff.mpr ⟨place, hplace, hfile⟩)
  · intro hmissing
    rw [load_of_fault (FileSystem.text_of_resolve_fault hmissing), if_pos rfl]
  · intro fault hfault
    exact load_of_fault hfault

/-- Dotted keys, a table between braces and one under a header, with much that is not known. -/
def mixedTables : String :=
  "extra.deep = [1, \x7bdir = 2\x7d]\nmodes.diag_dir = '/tmp/diag'\n" ++
    "features = \x7b tethering = true, since = 1979-05-27 \x7d\n" ++
    "[logging]\nlevel = 'debug'\n[[more]]\n"

def mixedConfig : Config where
  modes := { diagDir := "/tmp/diag" }
  features := { tethering := true }
  logging := { level := "debug" }

def mistypedTable : String :=
  "[logging]\nlevel = 3\n"

def tomlFiles : FileSystem where
  nodes :=
    [(["a"], .file (utf8 mixedTables)), (["b"], .file (utf8 mistypedTable)), (["c"], .directory)]

/-- A file of each kind, a directory, and a path where nothing is. -/
theorem ofText_overlay_mixedTables :
    ofText mixedTables = .ok mixedConfig
      ∧ (∃ fault, ofText mistypedTable = .error (.wrongType fault))
      ∧ (load tomlFiles "a").value = .ok mixedConfig
      ∧ (∃ message, (load tomlFiles "b").value = .error (.config message))
      ∧ (load tomlFiles "c").value =
        .error (.config "Failed to read c: Is a directory (os error 21)")
      ∧ (load tomlFiles "d").value = .ok {} := by
  obtain ⟨t, hread, htables, hfits, hvalue⟩ : ∃ t ∈ Document.read mixedTables,
      Tabled t ∧ Fits t ∧ overlaid t = mixedConfig := by
    decide +kernel
  obtain ⟨u, hreadMistyped, htablesMistyped, hmistyped⟩ : ∃ u ∈ Document.read mistypedTable,
      Tabled u ∧ ¬Fits u := by
    decide +kernel
  obtain ⟨sts, hdoc, hwithin⟩ := Document.read_eq_some_iff.mp hread
  obtain ⟨sts', hdocMistyped, hwithinMistyped⟩ := Document.read_eq_some_iff.mp hreadMistyped
  obtain ⟨hok, hconfig, -, -, -, hfiles⟩ := ofText_overlay hdoc htables
  obtain ⟨-, -, -, herror, -, hmistypedFiles⟩ := ofText_overlay hdocMistyped htablesMistyped
  obtain ⟨fault, hfault⟩ := herror hwithinMistyped hmistyped
  obtain ⟨c, hc⟩ := hok.mpr ⟨hwithin, hfits⟩
  have hmixed : ofText mixedTables = .ok mixedConfig := by
    rw [hc, hconfig c hc, hvalue]
  refine ⟨hmixed, ⟨fault, hfault⟩, ?_, ?_, ?_, ?_⟩
  · rw [(hfiles tomlFiles "a").1 ["a"] (by decide +kernel) rfl, hmixed]
    rfl
  · rw [(hmistypedFiles tomlFiles "b").1 ["b"] (by decide +kernel) rfl, hfault]
    exact ⟨_, rfl⟩
  · rw [(hfiles tomlFiles "c").2.2 (.system .isDirectory) (by decide +kernel)]
    decide +kernel
  · exact (hfiles tomlFiles "d").2.1 (by decide +kernel)

/-! ## Beyond the limits -/

/-- A document that says nothing wrong of what is known, and is no configuration all the same. -/
def Refused (text : String) (c : Config) : Prop :=
  ∃ sts t, Document.Says text sts t ∧ Tabled t ∧ Fits t ∧ overlaid t = c
    ∧ ofText text = .error .noDocument

theorem refused_of_read {text : String} {c : Config} (wide : Limits)
    (hwide : ∃ sts ∈ Document.statementsOf wide text, ∃ t ∈ Document.carryOut sts,
      Tabled t ∧ Fits t ∧ overlaid t = c)
    (hread : Document.read text = none) : Refused text c := by
  obtain ⟨sts, hsts, t, ht, htables, hfits, hvalue⟩ := hwide
  refine ⟨sts, t, ⟨⟨wide, hsts⟩, ht⟩, htables, hfits, hvalue, ?_⟩
  rw [ofText, hread]

/-- The directory of modes after a line about something else. -/
def withDir (line : String) : String :=
  line ++ "\n[modes]\ndir = '/d'\n"

/-- Eighty arrays one inside the other. -/
def nestedArrays : String :=
  withDir ("x = " ++ String.ofList (List.replicate 80 '[' ++ List.replicate 80 ']'))

/-- A key of eighty parts. -/
def longKey : String :=
  withDir (String.ofList (List.replicate 79 ['x', '.']).flatten ++ "x = 1")

/-- Each of the limits refuses a document of which all that is known fits. -/
theorem not_ofText_overlay_of_large :
    Refused nestedArrays { modes := { dir := "/d" } }
      ∧ Refused longKey { modes := { dir := "/d" } }
      ∧ Refused (withDir "x = 9223372036854775808") { modes := { dir := "/d" } }
      ∧ Refused (withDir "x = 1e400") { modes := { dir := "/d" } } := by
  refine ⟨refused_of_read ⟨80, 79, Number.fits⟩ ?_ ?_, refused_of_read ⟨79, 80, Number.fits⟩ ?_ ?_,
    refused_of_read ⟨79, 79, fun _ => true⟩ ?_ ?_, refused_of_read ⟨79, 79, fun _ => true⟩ ?_ ?_⟩
  all_goals decide +kernel

end GadgetModes.Config
