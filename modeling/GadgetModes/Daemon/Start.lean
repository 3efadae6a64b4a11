import GadgetModes.CommandLine.Read
import GadgetModes.Config.Read
import GadgetModes.Daemon.Basic
import GadgetModes.Log.Filter
import GadgetModes.Log.Line

/-!
# Starting the daemon

The command line is read first, then the configuration. What the command line says counts
more than the configuration, and a filter from the environment counts more than both. Then
the modes are loaded, the relay is set up, and the main loop runs.

Nothing is logged before the filter is known.
-/

namespace GadgetModes.Daemon

open GadgetModes.Log

/-- The variable of the environment that holds a filter. -/
def filterVariable : String := "RUST_LOG"

/-- What the daemon is started with. -/
structure Launch where
  arguments : List String
  /-- The filter that the environment asks for. -/
  filter : Option String := none
  files : FileSystem

/-- A daemon that never came to load modes: what it wrote, and how it ended. -/
structure Refusal where
  output : List String := []
  complaint : Option String := none
  code : Nat
deriving DecidableEq

/-- The configuration with what the command line says in its stead. -/
def override (l : CommandLine) (c : Config) : Config :=
  { c with
    modes :=
      { dir := l.modeDir.getD c.modes.dir
        diagDir := l.diagDir.getD c.modes.diagDir
        diagnostic := l.diagnostic || c.modes.diagnostic } }

/-- The least level that is reported. Asking for more output once or twice means debugging
output, and more often means all output. -/
def levelOf (l : CommandLine) (c : Config) : Level :=
  match l.verbosity with
  | 0 => (l.level <|> CommandLine.level? (Directive.lower c.logging.level)).getD .info
  | 1 | 2 => .debug
  | _ => .trace

/-- What is reported: what the environment asks for, if that can be read, or else the level
for all components of the daemon. -/
def filterOf (launch : Launch) (l : CommandLine) (c : Config) : Log.Filter :=
  (launch.filter.bind Log.Filter.ofText?).getD
    [{ target := Component.daemon.name, least := some (levelOf l c) }]

/-- What the daemon says when the relay cannot be set up. -/
def setUpComplaint : String :=
  "Failed to set up signal handling"

/-- Loads the modes and sets the relay up. -/
def prepare (launch : Launch) (l : CommandLine) (c : Config) (configPath : String) : Daemon :=
  let config := override l c
  let scanner : Scanner := ⟨config.modes.dirs, config.features.options⟩
  let diagnostic := config.modes.diagnostic
  let loaded : Logged Store := do
    Logged.report .starting
    Logged.report (.configFile configPath)
    Logged.report (.loadingModes diagnostic (scanner.dirs.select diagnostic))
    let store ← Store.load scanner launch.files diagnostic
    reportCatalog store.active
    return store
  let data : Data := ⟨loaded.value, launch.files, diagnostic⟩
  let turn := Relay.setUp () {} ({ log := loaded.log, data } : Host Data)
  let d : Daemon := { loop := turn.loop, host := turn.host, filter := filterOf launch l c }
  match turn.outcome with
  | .returned _ => d
  | _ => d.failWith setUpComplaint

/-- Starts a daemon; it stands before the first round of its main loop. -/
def start (launch : Launch) : Except Refusal Daemon :=
  match CommandLine.read launch.arguments with
  | .error (.fault fault) => .error { complaint := some ("error: " ++ fault.message), code := 2 }
  | .error .help => .error { output := CommandLine.helpLines, code := 0 }
  | .error .version => .error { output := [CommandLine.versionLine], code := 0 }
  | .ok l =>
    let path := l.config.getD Config.defaultPath
    match (Config.load launch.files path).value with
    | .error failure => .error { complaint := some (complain failure.message), code := 1 }
    | .ok c => .ok (prepare launch l c path)

def output (d : Daemon) : List String :=
  d.reported.map Event.line

end GadgetModes.Daemon
