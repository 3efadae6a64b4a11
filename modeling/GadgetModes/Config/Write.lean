import GadgetModes.Config.Basic
import GadgetModes.Toml.Writing

/-!
# Writing configurations

A configuration is written as a TOML document with one table for each of its parts, and a
blank line between them.
-/

namespace GadgetModes.Config

open GadgetModes.Toml

/-- A configuration as a text, with a form chosen for each text in it. -/
def writeWith (choose : List Char → Form) (c : Config) : String :=
  let text (s : String) := writtenIn (choose s.toList) s.toList
  String.ofList
    (headerLine "modes" ++ entryLine "dir" (text c.modes.dir)
      ++ entryLine "diag_dir" (text c.modes.diagDir)
      ++ entryLine "diagnostic" (writtenTruth c.modes.diagnostic)
      ++ '\n' :: headerLine "features" ++ entryLine "tethering" (writtenTruth c.features.tethering)
      ++ '\n' :: headerLine "logging" ++ entryLine "level" (text c.logging.level))

/-- A configuration as a text. -/
def write (c : Config) : String :=
  writeWith formOf c

end GadgetModes.Config
