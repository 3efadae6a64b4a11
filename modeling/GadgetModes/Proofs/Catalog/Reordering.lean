import GadgetModes.Proofs.Catalog.Contents
import GadgetModes.Proofs.Catalog.Lookup

/-!
# Records in another order

A catalog is sorted, so the order in which its records were found shows only among those of one
name (`Catalog.Sorted.alike`). What a scan finds depends on what the directory lists and on
nothing else (`Scanner.contents_of_listing`), so a directory that lists the same in another order
gives a catalog like it.
-/

namespace GadgetModes

open GadgetModes.Mode GadgetModes.Text

/-! ## Catalogs of the same records -/

namespace Catalog

/-- Catalogs that differ at most in the order of records of one name. -/
structure Alike (c d : Catalog) : Prop where
  diagnostic : c.diagnostic = d.diagnostic
  names : c.names = d.names
  perm : ∀ name, (sameNamed name c.modes.toList).Perm (sameNamed name d.modes.toList)
  contains : ∀ name, c.contains name = d.contains name
  unique : ∀ name, c.names.count name = 1 → ∃ r : Record, r.name = name
    ∧ c.lookup name = some r ∧ d.lookup name = some r
    ∧ c.duplicate name = some r ∧ d.duplicate name = some r
  distinct : c.names.Nodup → c = d

theorem count_names (c : Catalog) (name : String) :
    c.names.count name = (sameNamed name c.modes.toList).length := by
  rw [names, List.count_eq_length_filter, List.filter_map, List.length_map, sameNamed]
  rfl

theorem eq_of_perm_of_length_le_one {as bs : List Record} (h : as.Perm bs)
    (hlength : as.length ≤ 1) : as = bs := by
  cases as with
  | nil => exact (List.nil_perm.mp h).symm
  | cons a rest =>
      obtain rfl : rest = [] := by simpa using hlength
      exact (List.perm_singleton.mp h.symm).symm

section Sorted

variable {c d : Catalog} (hc : Sorted c.modes.toList) (hd : Sorted d.modes.toList)
include hc

/-- Looking a name up finds the first of its records. -/
theorem Sorted.lookup_eq_head? (name : String) :
    c.lookup name = (sameNamed name c.modes.toList).head? := by
  rw [hc.lookup, sameNamed, List.head?_filter]

theorem Sorted.contains_iff (name : String) :
    c.contains name = true ↔ ∃ r ∈ c.modes.toList, r.name = name := by
  simp [Catalog.contains, hc.lookup]

variable (h : c.modes.toList.Perm d.modes.toList)
include hd h

theorem Sorted.names_eq : c.names = d.names := by
  refine List.Perm.eq_of_pairwise (fun s t _ _ => bytesLe_antisymm) ?_ ?_ (h.map Record.name)
  · exact List.pairwise_map.mpr hc
  · exact List.pairwise_map.mpr hd

/-- Sorted catalogs of the same records are alike. -/
theorem Sorted.alike (hdiagnostic : c.diagnostic = d.diagnostic) : c.Alike d where
  diagnostic := hdiagnostic
  names := hc.names_eq hd h
  perm name := h.filter _
  contains name := by
    rw [Bool.eq_iff_iff, hc.contains_iff, hd.contains_iff]
    exact exists_congr fun r => and_congr_left fun _ => h.mem_iff
  unique name hname := by
    rw [count_names] at hname
    obtain ⟨r, hr⟩ := List.length_eq_one_iff.mp hname
    have hr' : sameNamed name d.modes.toList = [r] :=
      List.perm_singleton.mp (hr ▸ (h.filter _).symm)
    have hrname : r.name = name := by
      have hmem : r ∈ sameNamed name c.modes.toList := by simp [hr]
      simpa using (List.mem_filter.mp hmem).2
    have hlookup : c.lookup name = some r := by rw [hc.lookup_eq_head?, hr]; rfl
    have hlookup' : d.lookup name = some r := by rw [hd.lookup_eq_head?, hr']; rfl
    rw [duplicate_eq_lookup, duplicate_eq_lookup]
    exact ⟨r, hrname, hlookup, hlookup', hlookup, hlookup'⟩
  distinct hnames := by
    have hmodes : c.modes.toList = d.modes.toList := by
      refine eq_of_sorted_of_sameNamed hc hd fun name => ?_
      have hlength : (sameNamed name c.modes.toList).length ≤ 1 := by
        rw [← count_names]
        exact List.nodup_iff_count.mp hnames name
      exact eq_of_perm_of_length_le_one (h.filter _) hlength
    obtain ⟨modes, diagnostic⟩ := c
    obtain ⟨modes', diagnostic'⟩ := d
    exact congr (congrArg Catalog.mk (Array.toList_inj.mp hmodes)) hdiagnostic

end Sorted

end Catalog

/-! ## Directories in another order -/

/-- What a directory lists: its entries, each with its name and the bytes of the regular file that
it leads to, if it leads to one. -/
def FileSystem.listing (fs : FileSystem) (dir : String) :
    Except IoFault (List (String × Option (List UInt8))) :=
  (fs.entries dir).map fun names =>
    names.map fun name => (name, (fs.bytes (Path.join dir name)).toOption)

namespace Scanner

variable {fs : FileSystem} {dir : String} {entries : List (String × Option (List UInt8))}

def recordOfListed? (options : Mode.Options) (dir : String)
    (entry : String × Option (List UInt8)) : Option Record :=
  entry.2.bind fun bytes =>
    match FileSystem.decode (Description.dropMark bytes) with
    | .ok content => (Record.ofText options (Path.join dir entry.1) content).toOption
    | .error _ => none

theorem recordOf?_eq (options : Mode.Options) (fs : FileSystem) (dir name : String) :
    recordOf? options fs dir name =
      recordOfListed? options dir (name, (fs.bytes (Path.join dir name)).toOption) := by
  have hfile : fs.isFile (Path.join dir name) = true ↔
      ∃ bytes, fs.bytes (Path.join dir name) = .ok bytes := by
    simp only [FileSystem.isFile_iff, FileSystem.bytes_eq_ok_iff]
    exact exists_comm
  rw [recordOf?, recordOfListed?]
  cases hbytes : fs.bytes (Path.join dir name) with
  | error fault =>
      rw [if_neg (by simp [hfile, hbytes])]
      rfl
  | ok bytes =>
      have htext : Description.fileText fs (Path.join dir name) =
          FileSystem.decode (Description.dropMark bytes) := by
        rw [Description.fileText, hbytes]
        rfl
      rw [if_pos (hfile.mpr ⟨bytes, hbytes⟩)]
      simp only [Except.toOption, Option.bind_some]
      cases hcontent : FileSystem.decode (Description.dropMark bytes) with
      | error fault => rw [Record.ofFile_of_fault (htext.trans hcontent)]
      | ok content => rw [Record.ofFile_of_text (htext.trans hcontent)]

theorem contents_of_listing (options : Mode.Options) (h : fs.listing dir = .ok entries) :
    contents options fs dir = entries.filterMap (recordOfListed? options dir) := by
  rw [FileSystem.listing] at h
  cases hnames : fs.entries dir with
  | error fault => simp [hnames, Except.map] at h
  | ok names =>
      rw [hnames] at h
      obtain rfl := Except.ok.inj h
      rw [contents, hnames, List.filterMap_map]
      exact List.filterMap_congr fun name _ => recordOf?_eq options fs dir name

end Scanner

namespace Catalog

/-- Catalogs of the same records in two orders, and catalogs built from two lists of the same
entries, are alike: they have the same names, the same records under each of them, and give the
same record for a name that occurs once; without names that occur twice they are the same. They
hold the records of the list, and those that the entries give, with their names. -/
theorem reordered_alike :
    (∀ (records records' : List Record) (diagnostic : Bool), records.Perm records' →
        (ofRecords records diagnostic).names.Perm (records.map Record.name)
          ∧ (ofRecords records diagnostic).Alike (ofRecords records' diagnostic))
      ∧ ∀ (s : Scanner) (fs fs' : FileSystem) (diagnostic : Bool)
          (entries entries' : List (String × Option (List UInt8))),
          fs.listing (s.dirs.select diagnostic) = .ok entries →
          fs'.listing (s.dirs.select diagnostic) = .ok entries' → entries.Perm entries' →
            (build s fs diagnostic).value.modes.toList.Perm
                (entries.filterMap (Scanner.recordOfListed? s.options (s.dirs.select diagnostic)))
              ∧ (build s fs diagnostic).value.names.Perm
                ((entries.filterMap
                  (Scanner.recordOfListed? s.options (s.dirs.select diagnostic))).map Record.name)
              ∧ (build s fs diagnostic).value.Alike (build s fs' diagnostic).value := by
  have halike : ∀ (records records' : List Record) (diagnostic : Bool), records.Perm records' →
      (ofRecords records diagnostic).Alike (ofRecords records' diagnostic) := by
    intro records records' diagnostic h
    have hperm := (perm_ofRecords records diagnostic).trans
      (h.trans (perm_ofRecords records' diagnostic).symm)
    exact (sorted_ofRecords _ _).alike (sorted_ofRecords _ _) hperm rfl
  refine ⟨fun records records' diagnostic h => ⟨?_, halike _ _ _ h⟩, ?_⟩
  · exact (perm_ofRecords records diagnostic).map Record.name
  · intro s fs fs' diagnostic entries entries' hentries hentries' h
    rw [build_value, build_value, Scanner.contents_of_listing _ hentries,
      Scanner.contents_of_listing _ hentries']
    exact ⟨perm_ofRecords _ _, (perm_ofRecords _ _).map Record.name,
      halike _ _ _ (h.filterMap _)⟩

def twoModes : FileSystem where
  nodes := [(["a"], .directory), (["a", "m.ini"], .file (utf8 "[mode]\nname=M\nmodule=g\n")),
    (["a", "n.ini"], .file (utf8 "[mode]\nname=N\nmodule=g\n"))]

/-- The same directory, which lists its files the other way round. -/
def twoModesReversed : FileSystem :=
  { twoModes with nodes := twoModes.nodes.reverse }

def namesakes : List Record :=
  [⟨"m.ini", { name := some "M", module := some "g" }, by decide, {}⟩,
    ⟨"n.ini", { name := some "M", module := some "h" }, by decide, {}⟩]

/-- The directory gives one catalog, with the names in its files. The namesakes give two, with
the same names. -/
theorem reordered_alike_reversed :
    (build (scannerOf "a") twoModesReversed false).value =
        (build (scannerOf "a") twoModes false).value
      ∧ (ofRecords namesakes false).names = (ofRecords namesakes.reverse false).names
      ∧ (build (scannerOf "a") twoModes false).value.names.Perm ["M", "N"]
      ∧ (ofRecords namesakes false).lookup "M" ≠
        (ofRecords namesakes.reverse false).lookup "M" := by
  obtain ⟨hrecords, hlistings⟩ := reordered_alike
  have hlisted : twoModesReversed.listing "a" =
      .ok [("n.ini", some (utf8 "[mode]\nname=N\nmodule=g\n")),
        ("m.ini", some (utf8 "[mode]\nname=M\nmodule=g\n"))] := by decide +kernel
  have hlisted' : twoModes.listing "a" =
      .ok [("m.ini", some (utf8 "[mode]\nname=M\nmodule=g\n")),
        ("n.ini", some (utf8 "[mode]\nname=N\nmodule=g\n"))] := by decide +kernel
  obtain ⟨-, -, halike⟩ := hlistings (scannerOf "a") _ _ false _ _ hlisted hlisted' (.swap ..)
  obtain ⟨-, hfound, -⟩ := hlistings (scannerOf "a") _ _ false _ _ hlisted' hlisted (.swap ..)
  have hnames := (hrecords namesakes _ false (List.reverse_perm namesakes).symm).2.names
  refine ⟨halike.distinct ?_, hnames, hfound.trans (by decide +kernel), ?_⟩
  · rw [build_value]
    exact ((perm_ofRecords _ _).map Record.name).nodup_iff.mpr (by decide +kernel)
  · rw [(sorted_ofRecords _ _).lookup, (sorted_ofRecords _ _).lookup, find?_ofRecords,
      find?_ofRecords]
    decide +kernel

end Catalog

end GadgetModes
