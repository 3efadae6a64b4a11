import GadgetModes.Failure
import GadgetModes.Host.Signal
import GadgetModes.Mode.Invariant
import GadgetModes.Relay.Message
import GadgetModes.Relay.Stage

/-!
# Log events

What the daemon reports about its work. An event is one of a fixed number of kinds; its
level, the component it comes from, its message and its named fields follow from it.
-/

namespace GadgetModes.Log

/-- How much an event matters, the least first. -/
inductive Level where
  | trace
  | debug
  | info
  | warn
  | error
deriving DecidableEq

def Level.name : Level → String
  | trace => "TRACE"
  | debug => "DEBUG"
  | info => "INFO"
  | warn => "WARN"
  | error => "ERROR"

/-- How much an event matters, as a number. -/
def Level.rank : Level → Nat
  | trace => 0
  | debug => 1
  | info => 2
  | warn => 3
  | error => 4

/-- The parts of the daemon that report. -/
inductive Component where
  | daemon
  | config
  | reading
  | record
  | scanning
  | catalog
  | store
  | mainLoop
  | relay
deriving DecidableEq

def Component.name : Component → String
  | daemon => "usb_moded"
  | config => "usb_moded::config"
  | reading => "usb_moded::modes::parser"
  | record => "usb_moded::modes::record"
  | scanning => "usb_moded::modes::scanner"
  | catalog => "usb_moded::modes::catalog"
  | store => "usb_moded::modes::store"
  | mainLoop => "usb_moded::event_loop"
  | relay => "usb_moded::signal::relay"

/-- The value of a field: a text as it is, a text that log lines show in quotes, a number
or a truth value. -/
inductive Value where
  | plain (text : String)
  | quoted (text : String)
  | number (n : Int)
  | flag (b : Bool)
deriving DecidableEq

/-- Something that the daemon reports. -/
inductive Event where
  | readingModeFile (path : String)
  | loadedMode (path mode module : String)
  | unreadableModeFile (path : String) (cause : Mode.Unreadable)
  | rejectedModeFile (path : String) (rejection : Mode.Rejection)
  | invariantViolated (invariant : Mode.Invariant)
  | cannotOpenDirectory (dir : String) (fault : IoFault)
  | skippingEntry (path : String)
  | scannedDirectory (dir : String) (count : Nat)
  | catalogBuilt (diagnostic : Bool) (modes : Nat)
  | releasingCatalog (modes : Nat)
  | catalogReplaced (previous current : Nat)
  | noConfigFile (path : String)
  | watchAdded (watch : Nat) (conditions : PollFlags)
  | watchRemoved (watch : Nat)
  | pollInterrupted
  | noWatchesLeft
  | relayStageChanged (stage : Relay.Stage)
  | relayingSignal (signal : Signal)
  | unknownSignal (value : Int32)
  | relayCorrupted (fault : Relay.TransferFault)
  | relayWatchFailed (revents : PollFlags)
  | pipeNotCreated (failure : Failure)
  | handlersNotInstalled (failure : Failure)
  | relayRunning
  | starting
  | configFile (path : String)
  | loadingModes (diagnostic : Bool) (dir : String)
  | noUsableModes
  | availableMode (mode module source : String)
  | reloading
  | shutdownSignal (signal : Signal)
  | shutdownComplete
deriving DecidableEq

namespace Event

/-- The version that the daemon gives itself. -/
def version : String := "0.1.0"

/-- How much an event matters. -/
def level : Event → Level
  | invariantViolated _ | pollInterrupted => .trace
  | readingModeFile _ | skippingEntry _ | releasingCatalog _ | watchAdded .. | watchRemoved _
  | relayStageChanged _ | relayingSignal _ => .debug
  | loadedMode .. | scannedDirectory .. | catalogBuilt .. | catalogReplaced ..
  | noConfigFile _ | relayRunning | starting | configFile _ | loadingModes ..
  | availableMode .. | reloading | shutdownSignal _ | shutdownComplete => .info
  | unreadableModeFile .. | rejectedModeFile .. | cannotOpenDirectory .. | noWatchesLeft
  | unknownSignal _ | noUsableModes => .warn
  | relayCorrupted _ | relayWatchFailed _ | pipeNotCreated _ | handlersNotInstalled _ => .error

def component : Event → Component
  | readingModeFile _ | loadedMode .. | unreadableModeFile .. | rejectedModeFile .. => .reading
  | invariantViolated _ => .record
  | cannotOpenDirectory .. | skippingEntry _ | scannedDirectory .. => .scanning
  | catalogBuilt .. | releasingCatalog _ => .catalog
  | catalogReplaced .. => .store
  | noConfigFile _ => .config
  | watchAdded .. | watchRemoved _ | pollInterrupted | noWatchesLeft => .mainLoop
  | relayStageChanged _ | relayingSignal _ | unknownSignal _ | relayCorrupted _
  | relayWatchFailed _ | pipeNotCreated _ | handlersNotInstalled _ | relayRunning => .relay
  | starting | configFile _ | loadingModes .. | noUsableModes | availableMode .. | reloading
  | shutdownSignal _ | shutdownComplete => .daemon

/-- The wording of an event, its fields apart. -/
def message : Event → String
  | readingModeFile _ => "Reading mode file"
  | loadedMode .. => "Loaded mode"
  | unreadableModeFile _ cause => "Failed to read mode file: " ++ cause.reason
  | rejectedModeFile _ rejection => "Rejected mode file: " ++ rejection.message
  | invariantViolated _ => "Invariant violated"
  | cannotOpenDirectory _ fault => "Cannot open mode directory: " ++ fault.message
  | skippingEntry _ => "Skipping non-file entry"
  | scannedDirectory .. => "Scanned mode directory"
  | catalogBuilt .. => "Mode catalog built"
  | releasingCatalog _ => "Releasing mode catalog"
  | catalogReplaced .. => "Mode catalog replaced"
  | noConfigFile _ => "No configuration file, using defaults"
  | watchAdded .. => "Watch added"
  | watchRemoved _ => "Watch removed"
  | pollInterrupted => "poll interrupted"
  | noWatchesLeft => "Main loop has no watches left, stopping"
  | relayStageChanged _ => "Signal relay state changed"
  | relayingSignal _ => "Relaying signal"
  | unknownSignal _ => "Ignoring unknown signal number from relay"
  | relayCorrupted fault => "Signal relay corrupted: " ++ fault.message
  | relayWatchFailed _ => "Signal relay watch failed, signals will no longer be handled"
  | pipeNotCreated failure => "Failed to create signal pipe: " ++ failure.message
  | handlersNotInstalled failure => "Failed to install signal handlers: " ++ failure.message
  | relayRunning => "Signal relay running"
  | starting => "Starting usb-moded v" ++ version
  | configFile path => "Configuration file: " ++ path
  | loadingModes diagnostic dir =>
    "Loading " ++ (if diagnostic then "diagnostic" else "normal") ++ " modes from " ++ dir
  | noUsableModes => "No usable modes found"
  | availableMode .. => "Available mode"
  | reloading => "Reloading mode configuration"
  | shutdownSignal signal => "Shutdown signal received (" ++ signal.name ++ ")"
  | shutdownComplete => "usb-moded shutdown complete"

/-- The named fields of an event, in the order in which log lines show them. -/
def fields : Event → List (String × Value)
  | readingModeFile path => [("path", .plain path)]
  | loadedMode path mode module =>
    [("path", .plain path), ("mode", .quoted mode), ("module", .quoted module)]
  | unreadableModeFile path _ => [("path", .plain path)]
  | rejectedModeFile path rejection =>
    [("path", .plain path), ("field", .quoted rejection.field)]
  | invariantViolated invariant => [("invariant", .quoted invariant.name)]
  | cannotOpenDirectory dir _ => [("dir", .plain dir)]
  | skippingEntry path => [("path", .plain path)]
  | scannedDirectory dir count => [("dir", .plain dir), ("count", .number count)]
  | catalogBuilt diagnostic modes => [("diagnostic", .flag diagnostic), ("modes", .number modes)]
  | releasingCatalog modes => [("modes", .number modes)]
  | catalogReplaced previous current =>
    [("previous", .number previous), ("current", .number current)]
  | noConfigFile path => [("path", .plain path)]
  | watchAdded watch conditions =>
    [("watch", .number watch), ("conditions", .plain conditions.shown)]
  | watchRemoved watch => [("watch", .number watch)]
  | relayStageChanged stage => [("state", .plain stage.name)]
  | relayingSignal signal => [("signal", .quoted signal.name)]
  | unknownSignal value => [("signal", .number value.toInt)]
  | relayCorrupted _ => [("critical", .flag true)]
  | relayWatchFailed revents => [("critical", .flag true), ("revents", .plain revents.shown)]
  | availableMode mode module source =>
    [("mode", .quoted mode), ("module", .quoted module), ("source", .plain source)]
  | pollInterrupted | noWatchesLeft | pipeNotCreated _ | handlersNotInstalled _ | relayRunning
  | starting | configFile _ | loadingModes .. | noUsableModes | reloading | shutdownSignal _
  | shutdownComplete => []

end Event

end GadgetModes.Log
