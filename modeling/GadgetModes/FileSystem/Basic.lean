/-!
# File systems

A file system is a list of places with what is there. A place is the list of names that
lead to it from the root. Every place but the root is named by its directory and its
last name, so entering, changing or removing one entry leaves all other places as they
are. Relative paths start at `home`.

Places have no owners and no permissions, and every name is a text; what is assumed of
reading is said where it is defined.
-/

namespace GadgetModes

/-- The names that lead to a place from the root. -/
abbrev Location := List String

/-- What is at a place. -/
inductive Node where
  | file (bytes : List UInt8)
  | directory
  | link (target : String)
  | fifo
deriving DecidableEq

/-- A file system with the directory that relative paths start at. -/
structure FileSystem where
  home : Location := []
  nodes : List (Location × Node) := []
deriving DecidableEq

namespace FileSystem

/-- What is at a place. The root is always a directory. -/
def node? (fs : FileSystem) (place : Location) : Option Node :=
  if place = [] then some .directory else (fs.nodes.find? (·.1 = place)).map (·.2)

def isDirectory (fs : FileSystem) (place : Location) : Bool :=
  fs.node? place = some .directory

/-- The names of the entries of a directory, in the order in which they were made. -/
def entriesAt (fs : FileSystem) (place : Location) : List String :=
  fs.nodes.filterMap fun (p, _) =>
    if p.dropLast = place then p.getLast? else none

/-- Puts something at a place, in the stead of what is there. -/
def put (fs : FileSystem) (place : Location) (node : Node) : FileSystem :=
  if fs.nodes.any (·.1 = place) then
    { fs with nodes := fs.nodes.map fun e => if e.1 = place then (place, node) else e }
  else { fs with nodes := fs.nodes ++ [(place, node)] }

def removeAt (fs : FileSystem) (place : Location) : FileSystem :=
  { fs with nodes := fs.nodes.filter fun e => !place.isPrefixOf e.1 }

/-- A file system that holds its working directory and nothing else. -/
def empty (home : Location) : FileSystem where
  home := home
  nodes := (List.range home.length).map fun i => (home.take (i + 1), .directory)

end FileSystem

end GadgetModes
