import GadgetModes.FileSystem.Path

/-!
# Reading and changing a file system

Reading goes through links.

Some things are assumed of the host. All that there is may be read: no permission is
missing, and no input or output fails. Names are texts, so none is without an encoding in
UTF-8. A fifo has no writer, and opening one does not wait for any: there is nothing to
read, which is told by `EAGAIN`, where an open that waits would not come back.
-/

namespace GadgetModes.FileSystem

def bytes (fs : FileSystem) (path : String) : Except IoFault (List UInt8) :=
  match fs.resolve path with
  | .error fault => .error fault
  | .ok place =>
    match fs.node? place with
    | some (.file bytes) => .ok bytes
    | some .directory => .error (.system .isDirectory)
    | some .fifo => .error (.system .wouldBlock)
    | _ => .error (.system .noEntry)

/-- The text that bytes encode in UTF-8. -/
def decode (bytes : List UInt8) : Except IoFault String :=
  match String.fromUTF8? ⟨bytes.toArray⟩ with
  | some text => .ok text
  | none => .error .notUtf8

def text (fs : FileSystem) (path : String) : Except IoFault String :=
  (fs.bytes path).bind decode

/-- The names of the entries of a directory. -/
def entries (fs : FileSystem) (path : String) : Except IoFault (List String) :=
  match fs.resolve path with
  | .error fault => .error fault
  | .ok place =>
    if fs.isDirectory place then .ok (fs.entriesAt place)
    else .error (.system .notDirectory)

def isFile (fs : FileSystem) (path : String) : Bool :=
  match fs.resolve path with
  | .error _ => false
  | .ok place =>
    match fs.node? place with
    | some (.file _) => true
    | _ => false

/-- Makes the directories that are missing along some steps, and goes there. -/
def enter (fs : FileSystem) : Location → List String → Location × FileSystem
  | here, [] => (here, fs)
  | here, step :: rest =>
    match fs.walk true linkLimit here [step] with
    | .ok there => enter fs there rest
    | .error _ => enter (fs.put (here ++ [step]) .directory) (here ++ [step]) rest

/-- Puts something at a path and makes the directories that lead there. A file is written
through links, a directory that is there already stays as it is. -/
def write (fs : FileSystem) (path : String) (node : Node) : FileSystem :=
  let names := Path.names path
  match names.getLast? with
  | none => fs
  | some name =>
    let (dir, fs) := fs.enter (origin fs.home path) names.dropLast
    match node, fs.walk true linkLimit dir [name] with
    | .directory, .ok _ => fs
    | .file bytes, .ok place => if fs.isDirectory place then fs else fs.put place (.file bytes)
    | _, _ => fs.put (dir ++ [name]) node

/-- Removes what is at a path, with everything below it; a link goes, not its target. -/
def remove (fs : FileSystem) (path : String) : FileSystem :=
  match fs.walk false linkLimit (origin fs.home path) (Path.names path) with
  | .ok place => if place.isEmpty then fs else fs.removeAt place
  | .error _ => fs

end GadgetModes.FileSystem
