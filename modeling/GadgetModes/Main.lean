import GadgetModes.Daemon.Start

/-!
# The program

Runs a daemon on the files of the machine. Signals are read from the standard input, one
name a line, such as `HUP`; the directories of mode files are looked at again before each of
them. The input's end ends the program.
-/

namespace GadgetModes.Program

open GadgetModes

/-- What is at a path of the machine; links are followed. -/
def nodeAt? (path : String) : IO (Option Node) := do
  try
    let place ← IO.FS.realPath path
    match (← place.metadata).type with
    | .dir => return some .directory
    | .file => return some (.file (← IO.FS.readBinFile place).toList)
    | _ => return some .fifo
  catch _ => return none

/-- Puts what is at a path of the machine into a file system. -/
def copyNode (fs : FileSystem) (path : String) : IO FileSystem := do
  match ← nodeAt? path with
  | some node => return fs.write path node
  | none => return fs

/-- Puts a directory of the machine with its entries into a file system. -/
def copyDirectory (fs : FileSystem) (path : String) : IO FileSystem := do
  let fs ← copyNode fs path
  let names ← try
      let entries ← (← IO.FS.realPath path).readDir
      pure (entries.toList.map (·.fileName))
    catch _ => pure []
  names.foldlM (fun fs name => copyNode fs (Path.join path name)) fs

/-- The directories of mode files that a daemon is told to use. -/
def directories (arguments : List String) (fs : FileSystem) : List String :=
  match CommandLine.read arguments with
  | .error _ => []
  | .ok line =>
    match (Config.load fs (line.config.getD Config.defaultPath)).value with
    | .error _ => []
    | .ok config =>
      let dirs := (Daemon.override line config).modes.dirs
      [dirs.dir, dirs.diagDir]

/-- The files of the machine that a daemon looks at. -/
def filesFor (arguments : List String) : IO FileSystem := do
  let place := (← IO.currentDir).toString
  let start := FileSystem.empty (Path.names place)
  let fs ← match CommandLine.read arguments with
    | .ok line => copyNode start (line.config.getD Config.defaultPath)
    | .error _ => pure start
  (directories arguments fs).foldlM copyDirectory fs

/-- Writes the lines of output from some line on. -/
def showFrom (count : Nat) (d : Daemon) : IO Unit :=
  (d.output.drop count).forM fun line => IO.println line

/-- Hands signals to a daemon until it has ended or the input has. -/
partial def serve (arguments : List String) (input : IO.FS.Stream) (d : Daemon) :
    IO UInt32 := do
  match d.exit with
  | some (.code n) =>
    d.complaint.forM fun text => IO.eprintln text
    return n.toUInt32
  | some (.signal s) => return (128 + s.number).toUInt32
  | none =>
    let line ← input.getLine
    if line.isEmpty then return 0
    let files ← filesFor arguments
    let d := d.changeFiles fun _ => files
    match Signal.ofName? ("SIG" ++ Text.trimmed line) with
    | none => serve arguments input d
    | some s =>
      let woken := d.wake s
      showFrom d.output.length woken
      serve arguments input woken

end GadgetModes.Program

open GadgetModes GadgetModes.Program in
/-- Starts a daemon with some arguments. -/
def main (arguments : List String) : IO UInt32 := do
  let filter ← IO.getEnv Daemon.filterVariable
  let files ← filesFor arguments
  match Daemon.start { arguments, filter, files } with
  | .error refusal =>
    refusal.output.forM fun line => IO.println line
    refusal.complaint.forM fun text => IO.eprintln text
    return refusal.code.toUInt32
  | .ok daemon =>
    let daemon := daemon.untilIdle
    showFrom 0 daemon
    serve arguments (← IO.getStdin) daemon
