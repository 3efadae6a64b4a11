/-!
# The order of UTF-8

Texts compared by their bytes in UTF-8.
-/

namespace GadgetModes.Text

def utf8 (s : String) : List UInt8 :=
  s.toUTF8.data.toList

/-- Whether a text comes before another byte by byte. -/
def bytesLt (s t : String) : Bool :=
  utf8 s < utf8 t

/-- Whether a text does not come after another byte by byte. -/
def bytesLe (s t : String) : Bool :=
  !bytesLt t s

end GadgetModes.Text
