import GadgetModes.Catalog.Basic
import GadgetModes.Mode.Read

/-!
# Scanning directories

A scanner reads the mode files of a directory: the regular files in it, or what links
in it lead to, and nothing below. A directory that cannot be opened has none. Every
entry is reported once, as skipped, loaded or rejected.
-/

namespace GadgetModes

open GadgetModes.Log GadgetModes.Mode

/-- The two directories of mode files. -/
structure ModeDirs where
  dir : String := "/etc/usb-moded/dyn-modes"
  diagDir : String := "/etc/usb-moded/diag"
deriving DecidableEq

/-- The directory of normal or of diagnostic modes. -/
def ModeDirs.select (dirs : ModeDirs) (diagnostic : Bool) : String :=
  if diagnostic then dirs.diagDir else dirs.dir

/-- What a scan needs to know. -/
structure Scanner where
  dirs : ModeDirs := {}
  options : Mode.Options := {}
deriving DecidableEq

namespace Scanner

/-- The mode of one entry of a directory. -/
def scanEntry (s : Scanner) (fs : FileSystem) (path : String) : Logged (Option Record) := do
  if fs.isFile path then Record.load s.options fs path
  else
    Logged.report (.skippingEntry path)
    return none

/-- The modes of some entries of a directory, in order. -/
def scanEntries (s : Scanner) (fs : FileSystem) (dir : String) :
    List String → Logged (List Record)
  | [] => return []
  | name :: names => do
    let record? ← s.scanEntry fs (Path.join dir name)
    let records ← s.scanEntries fs dir names
    return record?.toList ++ records

/-- The modes of a directory, in the order of its entries. -/
def scanDir (s : Scanner) (fs : FileSystem) (dir : String) : Logged (List Record) := do
  match fs.entries dir with
  | .error fault =>
    Logged.report (.cannotOpenDirectory dir fault)
    return []
  | .ok names =>
    let records ← s.scanEntries fs dir names
    Logged.report (.scannedDirectory dir records.length)
    return records

/-- The normal or the diagnostic modes. -/
def scan (s : Scanner) (fs : FileSystem) (diagnostic : Bool) : Logged (List Record) :=
  s.scanDir fs (s.dirs.select diagnostic)

end Scanner

/-- The catalog of the normal or the diagnostic modes. -/
def Catalog.build (s : Scanner) (fs : FileSystem) (diagnostic : Bool) : Logged Catalog := do
  let records ← s.scan fs diagnostic
  let catalog := Catalog.ofRecords records diagnostic
  Logged.report (.catalogBuilt diagnostic catalog.size)
  return catalog

end GadgetModes
