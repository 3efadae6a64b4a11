import GadgetModes.FileSystem.Access
import GadgetModes.Log.Logged
import GadgetModes.Mode.Description

/-!
# Reading mode files

A mode file is the text of a mode description, with or without a byte order mark.
`Record.ofFile` reads one and says why it is rejected; `Record.load` reports what it
does and gives a record or nothing.
-/

namespace GadgetModes.Mode

open GadgetModes.Log

/-- Checks the invariants; the one that is broken first is reported. -/
def Fields.validate (f : Fields) : Logged (Except Rejection Unit) :=
  match f.violation? with
  | some (invariant, rejection) => do
    Logged.report (.invariantViolated invariant)
    return .error rejection
  | none => return .ok ()

namespace Description

/-- The bytes after a byte order mark, if they start with one. -/
def dropMark : List UInt8 → List UInt8
  | 0xEF :: 0xBB :: 0xBF :: bytes => bytes
  | bytes => bytes

def fileText (fs : FileSystem) (path : String) : Except IoFault String :=
  (fs.bytes path).bind fun bytes => FileSystem.decode (dropMark bytes)

/-- The fields that a mode file gives, if it can be read. -/
def ofFile (options : Options) (fs : FileSystem) (path : String) : Except Rejection Fields :=
  match fileText fs path with
  | .ok content => ofText options content
  | .error fault => .error (.unreadable (.io fault))

end Description

namespace Record

def ofFile (options : Options) (fs : FileSystem) (path : String) : Except Rejection Record :=
  (Description.ofFile options fs path).bind (ofFields path)

/-- Builds a record; a broken invariant is reported. -/
def build (source : String) (fields : Fields) : Logged (Except Rejection Record) := do
  let _ ← fields.validate
  return ofFields source fields

def rejectionEvent (path : String) : Rejection → Event
  | .unreadable cause => .unreadableModeFile path cause
  | rejection => .rejectedModeFile path rejection

/-- Reads a mode file. A file that is rejected is reported and gives no record. -/
def load (options : Options) (fs : FileSystem) (path : String) : Logged (Option Record) := do
  Logged.report (.readingModeFile path)
  let outcome ← match Description.ofFile options fs path with
    | .ok fields => build path fields
    | .error rejection => pure (.error rejection)
  match outcome with
  | .ok record =>
    Logged.report (.loadedMode path record.name record.module)
    return some record
  | .error rejection =>
    Logged.report (rejectionEvent path rejection)
    return none

end Record

end GadgetModes.Mode
