import GadgetModes.Catalog.Scan

/-!
# Configurations

What the daemon can be told: where mode files are and which of the two directories to use,
whether the tethering technology is read, and how much is logged.
-/

namespace GadgetModes

namespace Config

structure Modes where
  dir : String := ({} : ModeDirs).dir
  diagDir : String := ({} : ModeDirs).diagDir
  diagnostic : Bool := false
deriving DecidableEq

/-- What is optional. -/
structure Features where
  tethering : Bool := ({} : Mode.Options).tethering
deriving DecidableEq

structure Logging where
  level : String := "info"
deriving DecidableEq

/-- The directories of mode files. -/
def Modes.dirs (m : Modes) : ModeDirs :=
  ⟨m.dir, m.diagDir⟩

/-- How mode files are read. -/
def Features.options (f : Features) : Mode.Options :=
  ⟨f.tethering⟩

end Config

/-- What the daemon is told. -/
structure Config where
  modes : Config.Modes := {}
  features : Config.Features := {}
  logging : Config.Logging := {}
deriving DecidableEq

end GadgetModes
