import GadgetModes.Log.Event

/-!
# The command line of the daemon

The options, what they are called, what they set, and what is said about a command line
that is wrong, in the words of version 4 of the `clap` library.
-/

namespace GadgetModes

open GadgetModes.Log

/-- What a command line says; what it does not say is left to the configuration. -/
structure CommandLine where
  config : Option String := none
  modeDir : Option String := none
  diagDir : Option String := none
  diagnostic : Bool := false
  level : Option Level := none
  /-- How often more output was asked for. -/
  verbosity : Nat := 0
deriving DecidableEq

namespace CommandLine

/-- The options. -/
inductive Switch where
  | config
  | modeDir
  | diagDir
  | diag
  | logLevel
  | verbose
  | help
  | version
deriving DecidableEq

namespace Switch

/-- All options. -/
def all : List Switch :=
  [config, modeDir, diagDir, diag, logLevel, verbose, help, version]

/-- The long name of an option, after two dashes. -/
def long : Switch → String
  | config => "config"
  | modeDir => "mode-dir"
  | diagDir => "diag-dir"
  | diag => "diag"
  | logLevel => "log-level"
  | verbose => "verbose"
  | help => "help"
  | version => "version"

def letter? : Switch → Option Char
  | config => some 'c'
  | diag => some 'd'
  | logLevel => some 'l'
  | verbose => some 'v'
  | help => some 'h'
  | version => some 'V'
  | modeDir | diagDir => none

/-- What the value of an option is called, if it takes one. -/
def valueName? : Switch → Option String
  | config => some "FILE"
  | modeDir | diagDir => some "DIR"
  | logLevel => some "LEVEL"
  | diag | verbose | help | version => none

def takesValue (s : Switch) : Bool :=
  s.valueName?.isSome

/-- An option as messages show it. -/
def shown (s : Switch) : String :=
  "--" ++ s.long ++ match s.valueName? with
    | some name => " <" ++ name ++ ">"
    | none => if s = verbose then "..." else ""

def ofLong? (name : String) : Option Switch :=
  all.find? (·.long = name)

def ofLetter? (c : Char) : Option Switch :=
  all.find? (·.letter? = some c)

end Switch

/-- The levels by their names on the command line and in configurations. -/
def levels : List (String × Level) :=
  [("error", .error), ("warn", .warn), ("info", .info), ("verbose", .debug),
   ("debug", .debug), ("trace", .trace)]

def level? (name : String) : Option Level :=
  (levels.find? (·.1 = name)).map (·.2)

/-- What is wrong with a command line. -/
inductive Fault where
  | unexpected (argument : String)
  | unexpectedValue (switch : Switch) (value : String)
  | valueMissing (switch : Switch)
  | invalidValue (switch : Switch) (value : String)
  | repeated (switch : Switch)
deriving DecidableEq

def Fault.message : Fault → String
  | unexpected argument => "unexpected argument '" ++ argument ++ "' found"
  | unexpectedValue switch value =>
    "unexpected value '" ++ value ++ "' for '" ++ switch.shown ++
      "' found; no more were expected"
  | valueMissing switch =>
    "a value is required for '" ++ switch.shown ++ "' but none was supplied"
  | invalidValue switch value => "invalid value '" ++ value ++ "' for '" ++ switch.shown ++ "'"
  | repeated switch => "the argument '" ++ switch.shown ++ "' cannot be used multiple times"

/-- What the daemon says about itself. -/
def helpLines : List String :=
  ["USB gadget mode daemon",
   "",
   "Usage: usb-moded [OPTIONS]",
   "",
   "Options:",
   "  -c, --config <FILE>      Configuration file (default: /etc/usb-moded/usb-moded.toml)",
   "      --mode-dir <DIR>     Normal mode directory (overrides config)",
   "      --diag-dir <DIR>     Diagnostic mode directory (overrides config)",
   "  -d, --diag               Load diagnostic modes instead of normal ones",
   "  -l, --log-level <LEVEL>  Log level (error, warn, info, verbose, debug, trace; " ++
     "overrides config) [possible values: error, warn, info, verbose, debug, trace]",
   "  -v, --verbose...         Increase verbosity (-v for verbose, -vv for debug, " ++
     "-vvv for trace)",
   "  -h, --help               Print help",
   "  -V, --version            Print version"]

/-- The name of the daemon with its version. -/
def versionLine : String :=
  "usb-moded " ++ Event.version

end CommandLine

end GadgetModes
