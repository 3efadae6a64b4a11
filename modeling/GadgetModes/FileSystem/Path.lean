import GadgetModes.FileSystem.Basic
import GadgetModes.FileSystem.Fault

/-!
# Paths

A path is a text with slashes between names. Resolving it goes from directory to
directory, through `.` and `..` and symbolic links, of which it follows forty at most.
A slash at the end asks for a directory, as `/.` would.
-/

namespace GadgetModes

def Path.join (dir name : String) : String :=
  if dir.isEmpty || dir.toList.getLast? = some '/' then dir ++ name else dir ++ "/" ++ name

def Path.names (path : String) : List String :=
  ((path.toList.splitOn '/').filter (· ≠ [])).map String.ofList

def Path.steps (path : String) : List String :=
  if path.toList.getLast? = some '/' then Path.names path ++ ["."] else Path.names path

/-- Whether a path starts at the root. -/
def Path.isAbsolute (path : String) : Bool :=
  path.toList.head? = some '/'

namespace FileSystem

/-- How many symbolic links one resolution follows. -/
def linkLimit : Nat := 40

/-- How many bytes a name may have. -/
def nameLimit : Nat := 255

/-- How many bytes a path may have, one for its end counted. -/
def pathLimit : Nat := 4096

/-- Where a path relative to a place starts. -/
def origin (here : Location) (path : String) : Location :=
  if Path.isAbsolute path then [] else here

/--
Goes from a place along some steps, as far as there is no link to follow. A link is
followed unless it is the last step and `through` is off; `follow` tells where its target
and the steps after it lead.
-/
def walkWith (fs : FileSystem) (through : Bool)
    (follow : Location → List String → Except Errno Location) (here : Location) :
    List String → Except Errno Location
  | [] => .ok here
  | step :: rest =>
    if !fs.isDirectory here then .error .notDirectory
    else if step = "." then walkWith fs through follow here rest
    else if step = ".." then walkWith fs through follow here.dropLast rest
    else if nameLimit < step.utf8ByteSize then .error .nameTooLong
    else
      match fs.node? (here ++ [step]) with
      | none => .error .noEntry
      | some (.link target) =>
        if rest.isEmpty && !through then .ok (here ++ [step])
        else follow (origin here target) (Path.steps target ++ rest)
      | some _ => walkWith fs through follow (here ++ [step]) rest

/-- Goes from a place along some steps and follows a number of links at most. -/
def walk (fs : FileSystem) (through : Bool) :
    Nat → Location → List String → Except Errno Location
  | 0 => fs.walkWith through fun _ _ => .error .tooManyLinks
  | links + 1 => fs.walkWith through (fs.walk through links)

/-- The place that a path leads to. -/
def resolve (fs : FileSystem) (path : String) : Except IoFault Location :=
  if path.toList.contains '\x00' then .error .nulInPath
  else if path.isEmpty then .error (.system .noEntry)
  else if pathLimit ≤ path.utf8ByteSize then .error (.system .nameTooLong)
  else (fs.walk true linkLimit (origin fs.home path) (Path.steps path)).mapError .system

end FileSystem

end GadgetModes
