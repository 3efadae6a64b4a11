import GadgetModes.Catalog.Scan
import GadgetModes.Proofs.Catalog.Order
import GadgetModes.Proofs.FileSystem.Trail
import GadgetModes.Proofs.Mode.Files

/-!
# What a catalog holds

The records of a catalog are those that the mode files in its directory give, one for
each entry at most (`Catalog.build_value`), in the order of a catalog
(`Catalog.holds_ofRecords`). What becomes of one entry does not matter for the records of
others, unless the paths of these, or of the directory, lead through it
(`Scanner.contents_congr`).
-/

namespace GadgetModes

open GadgetModes.Log GadgetModes.Mode

/-! ## One entry -/

theorem Mode.Record.source_of_ofFile {options : Options} {fs : FileSystem} {path : String}
    {r : Record} (h : Record.ofFile options fs path = .ok r) : r.source = path := by
  rw [Record.ofFile] at h
  cases hfields : Description.ofFile options fs path with
  | error rejection => rw [hfields] at h; cases h
  | ok fields =>
      rw [hfields] at h
      exact (Record.ofFields_eq_ok_iff.mp h).1

theorem Path.join_injective {dir n m : String} (h : Path.join dir n = Path.join dir m) :
    n = m := by
  rw [Path.join, Path.join] at h
  split at h
  · exact String.append_right_inj _ |>.mp h
  · exact String.append_right_inj _ |>.mp h

namespace Scanner

variable {fs fs' : FileSystem}

def recordOf? (options : Mode.Options) (fs : FileSystem) (dir name : String) : Option Record :=
  if fs.isFile (Path.join dir name) then
    (Record.ofFile options fs (Path.join dir name)).toOption
  else none

/-- The records that the entries of a directory give, one after the other. A directory that
cannot be opened has no entries. -/
def contents (options : Mode.Options) (fs : FileSystem) (dir : String) : List Record :=
  ((fs.entries dir).toOption.getD []).filterMap (recordOf? options fs dir)

theorem scanEntry_value (s : Scanner) (fs : FileSystem) (dir name : String) :
    (s.scanEntry fs (Path.join dir name)).value = recordOf? s.options fs dir name := by
  rw [scanEntry, recordOf?]
  split
  · exact Record.load_value ..
  · rfl

theorem scanEntries_value (s : Scanner) (fs : FileSystem) (dir : String)
    (names : List String) :
    (s.scanEntries fs dir names).value = names.filterMap (recordOf? s.options fs dir) := by
  induction names with
  | nil => rfl
  | cons name names ih =>
      rw [scanEntries, Logged.value_bind, Logged.value_bind, Logged.value_pure, ih,
        scanEntry_value, List.filterMap_cons]
      cases recordOf? s.options fs dir name <;> rfl

theorem scan_value (s : Scanner) (fs : FileSystem) (diagnostic : Bool) :
    (s.scan fs diagnostic).value = contents s.options fs (s.dirs.select diagnostic) := by
  rw [scan, scanDir, contents]
  cases fs.entries (s.dirs.select diagnostic) with
  | error fault => rfl
  | ok names => exact scanEntries_value ..

/-- Which files give a record: those that a path leads to, links being followed, and that
are read without a rejection. -/
theorem recordOf?_eq_some_iff {options : Mode.Options} {dir name : String} {r : Record} :
    recordOf? options fs dir name = some r ↔
      (∃ place bytes, fs.resolve (Path.join dir name) = .ok place
        ∧ fs.node? place = some (.file bytes))
      ∧ Record.ofFile options fs (Path.join dir name) = .ok r := by
  have hread : (Record.ofFile options fs (Path.join dir name)).toOption = some r ↔
      Record.ofFile options fs (Path.join dir name) = .ok r := by
    cases Record.ofFile options fs (Path.join dir name) <;> simp [Except.toOption]
  rw [recordOf?, ← FileSystem.isFile_iff]
  split
  · next h => rw [hread]; simp [h]
  · next h => simp [h]

theorem source_of_recordOf? {options : Mode.Options} {dir name : String} {r : Record}
    (h : recordOf? options fs dir name = some r) : r.source = Path.join dir name :=
  Record.source_of_ofFile (recordOf?_eq_some_iff.mp h).2

theorem recordOf?_congr {place : Location} {options : Mode.Options} {dir name : String}
    (hagree : FileSystem.AgreeOff place fs fs')
    (h : ¬fs.LeadsThrough place (Path.join dir name)) :
    recordOf? options fs' dir name = recordOf? options fs dir name := by
  rw [recordOf?, recordOf?, FileSystem.isFile_congr hagree h, Record.ofFile, Record.ofFile,
    Description.ofFile, Description.ofFile, Description.fileText, Description.fileText,
    FileSystem.bytes_congr hagree h]

/-- The records of a directory but for those of one entry. -/
theorem contents_filter {options : Mode.Options} {dir name : String} :
    (contents options fs dir).filter (·.source ≠ Path.join dir name) =
      (((fs.entries dir).toOption.getD []).filter (· ≠ name)).filterMap
        (recordOf? options fs dir) := by
  rw [contents, List.filter_filterMap, List.filterMap_filter]
  congr 1
  funext n
  cases h : recordOf? options fs dir n with
  | none => simp
  | some r =>
      have hsource := source_of_recordOf? h
      by_cases hn : n = name
      · simp [hn, hsource, Option.filter_some]
      · have hne : Path.join dir n ≠ Path.join dir name := fun h => hn (Path.join_injective h)
        simp [hn, hsource, hne, Option.filter_some]

/-- What becomes of one entry does not matter for the records of others. -/
theorem contents_congr (options : Mode.Options) {dir name : String} {place : Location}
    (hdir : fs.resolve dir = .ok place)
    (hagree : FileSystem.AgreeOff (place ++ [name]) fs fs')
    (hroot : ¬fs.LeadsThrough (place ++ [name]) dir)
    (hothers : ∀ n ∈ fs.entriesAt place, n ≠ name →
      ¬fs.LeadsThrough (place ++ [name]) (Path.join dir n)) :
    (contents options fs' dir).filter (·.source ≠ Path.join dir name) =
      (contents options fs dir).filter (·.source ≠ Path.join dir name) := by
  have hentries := FileSystem.entries_congr hagree hroot hdir
  simp only [ne_eq, List.append_right_inj, List.cons.injEq, and_true] at hentries
  rw [contents_filter, contents_filter]
  simp only [ne_eq, hentries]
  refine List.filterMap_congr fun n hn => ?_
  obtain ⟨hmem, hne⟩ := List.mem_filter.mp hn
  rw [FileSystem.entries_of_resolve hdir] at hmem
  split at hmem
  · exact recordOf?_congr hagree (hothers n hmem (by simpa using hne))
  · cases hmem

end Scanner

/-! ## Catalogs -/

namespace Catalog

theorem build_value (s : Scanner) (fs : FileSystem) (diagnostic : Bool) :
    (build s fs diagnostic).value =
      ofRecords (Scanner.contents s.options fs (s.dirs.select diagnostic)) diagnostic := by
  rw [build, Logged.value_bind, Scanner.scan_value]
  rfl

/-- A catalog holds what the files in a directory give: one record for each entry that
leads to a regular file and is not rejected, sorted by name, those of one name in the order
of the entries. -/
structure Holds (c : Catalog) (options : Mode.Options) (fs : FileSystem) (dir : String) :
    Prop where
  perm : c.modes.toList.Perm (Scanner.contents options fs dir)
  sorted : Sorted c.modes.toList
  stable : ∀ name,
    sameNamed name c.modes.toList = sameNamed name (Scanner.contents options fs dir)
  mem_iff : ∀ r, r ∈ c.modes.toList ↔
    ∃ names, fs.entries dir = .ok names ∧ ∃ name ∈ names,
      (∃ place bytes, fs.resolve (Path.join dir name) = .ok place
        ∧ fs.node? place = some (.file bytes))
      ∧ Record.ofFile options fs (Path.join dir name) = .ok r
      ∧ r.source = Path.join dir name
  unopened : ∀ fault, fs.entries dir = .error fault → c.modes = #[]

theorem holds_ofRecords (options : Mode.Options) (fs : FileSystem) (dir : String)
    (diagnostic : Bool) :
    (ofRecords (Scanner.contents options fs dir) diagnostic).Holds options fs dir where
  perm := perm_ofRecords ..
  sorted := sorted_ofRecords ..
  stable := sameNamed_ofRecords _ _
  mem_iff := by
    intro r
    rw [(perm_ofRecords _ _).mem_iff, Scanner.contents]
    cases fs.entries dir with
    | error fault => simp [Except.toOption]
    | ok names =>
        simp only [Except.toOption, Option.getD_some, List.mem_filterMap, Except.ok.injEq,
          exists_eq_left', Scanner.recordOf?_eq_some_iff]
        refine exists_congr fun name => and_congr_right fun _ => and_congr_right fun _ => ?_
        exact ⟨fun h => ⟨h, Record.source_of_ofFile h⟩, fun h => h.1⟩
  unopened := by
    intro fault h
    simp [Scanner.contents, h, ofRecords, Except.toOption]

/-- A catalog that is built holds what the selected directory holds and nothing of the
other one, and keeps all other records when one entry is added, changed or removed, unless
the path of the directory or of another entry leads through that one. -/
theorem build_holds (s : Scanner) (fs : FileSystem) (diagnostic : Bool) :
    (build s fs diagnostic).value.diagnostic = diagnostic
      ∧ (build s fs diagnostic).value.Holds s.options fs (s.dirs.select diagnostic)
      ∧ (∀ dirs : ModeDirs, dirs.select diagnostic = s.dirs.select diagnostic →
          (build { s with dirs } fs diagnostic).value = (build s fs diagnostic).value)
      ∧ ∀ (fs' : FileSystem) (dir : Location) (name : String),
          fs.resolve (s.dirs.select diagnostic) = .ok dir →
          FileSystem.AgreeOff (dir ++ [name]) fs fs' →
          ¬fs.LeadsThrough (dir ++ [name]) (s.dirs.select diagnostic) →
          (∀ n ∈ fs.entriesAt dir, n ≠ name →
            ¬fs.LeadsThrough (dir ++ [name]) (Path.join (s.dirs.select diagnostic) n)) →
          ((build s fs' diagnostic).value.modes.toList.filter
              (·.source ≠ Path.join (s.dirs.select diagnostic) name)) =
            (build s fs diagnostic).value.modes.toList.filter
              (·.source ≠ Path.join (s.dirs.select diagnostic) name) := by
  refine ⟨by rw [build_value]; rfl, by rw [build_value]; exact holds_ofRecords .., ?_, ?_⟩
  · intro dirs hdirs
    rw [build_value, build_value, hdirs]
  · intro fs' dir name hdir hagree hroot hothers
    have hcontents := Scanner.contents_congr s.options hdir hagree hroot hothers
    rw [build_value, build_value]
    refine eq_of_sorted_of_sameNamed ((sorted_ofRecords _ _).filter _)
      ((sorted_ofRecords _ _).filter _) fun n => ?_
    rw [sameNamed_filter, sameNamed_filter, sameNamed_ofRecords, sameNamed_ofRecords,
      ← sameNamed_filter, ← sameNamed_filter, hcontents]

def besideDirectory : FileSystem where
  nodes := [(["a"], .directory), (["a", "x"], .directory),
    (["a", "m.ini"], .file (Text.utf8 "[mode]\nname=M\nmodule=g\n"))]

def scannerOf (dir : String) : Scanner where
  dirs := { dir }

/-- The mode stays when the directory beside it is removed, and when a file that is no text comes
in its stead. -/
theorem build_holds_besideDirectory :
    besideDirectory.resolve "a" = .ok ["a"]
      ∧ ((build (scannerOf "a") (besideDirectory.removeAt ["a", "x"])
            false).value.modes.toList.filter
          (·.source ≠ Path.join ((scannerOf "a").dirs.select false) "x")).map (·.name) =
        ["M"]
      ∧ ((build (scannerOf "a") (besideDirectory.put ["a", "x"] (.file [0xFF]))
            false).value.modes.toList.filter
          (·.source ≠ Path.join ((scannerOf "a").dirs.select false) "x")).map (·.name) =
        ["M"] := by
  have hdir : besideDirectory.resolve "a" = .ok ["a"] := by decide +kernel
  have hframe := fun fs' hagree => (build_holds (scannerOf "a") besideDirectory false).2.2.2
    fs' ["a"] "x" hdir hagree (by decide +kernel) (by decide +kernel)
  refine ⟨hdir, ?_, ?_⟩
  · rw [hframe _ (FileSystem.agreeOff_removeAt besideDirectory ["a", "x"])]
    decide +kernel
  · rw [hframe _ (FileSystem.agreeOff_put besideDirectory ["a", "x"] (.file [0xFF]))]
    decide +kernel

/-- When the path of the directory leads through an entry, removing that loses the records
of others, though no entry is a link. -/
theorem not_build_keeps_through_root :
    ¬∀ (s : Scanner) (fs : FileSystem) (diagnostic : Bool) (dir : Location) (name : String),
      fs.resolve (s.dirs.select diagnostic) = .ok dir →
      (∀ n ∈ fs.entriesAt dir, n ≠ name →
        ¬∃ target, fs.node? (dir ++ [n]) = some (.link target)) →
      (build s (fs.removeAt (dir ++ [name])) diagnostic).value.modes.toList.filter
          (·.source ≠ Path.join (s.dirs.select diagnostic) name) =
        (build s fs diagnostic).value.modes.toList.filter
          (·.source ≠ Path.join (s.dirs.select diagnostic) name) := by
  intro h
  have hnoLink : ∀ n ∈ besideDirectory.entriesAt ["a"], n ≠ "x" →
      ¬∃ target, besideDirectory.node? (["a"] ++ [n]) = some (.link target) := by
    intro n hn hne
    have hn : n ∈ ["x", "m.ini"] := hn
    obtain rfl : n = "m.ini" := by simpa [hne] using hn
    simp [besideDirectory, FileSystem.node?]
  have hsame := congrArg List.length
    (h (scannerOf "a/x/..") besideDirectory false ["a"] "x" (by decide +kernel) hnoLink)
  revert hsame
  decide +kernel

end Catalog

end GadgetModes
