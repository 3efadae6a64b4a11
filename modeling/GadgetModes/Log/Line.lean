import GadgetModes.Log.Event
import GadgetModes.Text.Quoted

/-!
# Log lines

An event as a line: its level, the component, the message, and the fields with their
names. Controls that a terminal might obey are made visible in messages, as version 0.3 of the
`tracing-subscriber` library does it.
-/

namespace GadgetModes.Log

open GadgetModes.Text

/-- Controls of ASCII that a terminal might obey, and what is shown for them. -/
def terminalControls : List (Nat × String) :=
  [(0x1B, "\\x1b"), (0x07, "\\x07"), (0x08, "\\x08"), (0x0C, "\\x0c"), (0x7F, "\\x7f")]

def shownChar (c : Char) : List Char :=
  match terminalControls.find? (·.1 = c.toNat) with
  | some (_, shown) => shown.toList
  | none =>
    if 0x80 ≤ c.toNat && c.toNat ≤ 0x9F then
      "\\u\x7b".toList ++ hexDigits c.toNat ++ ['\x7d']
    else [c]

def shownMessage (message : String) : String :=
  String.ofList (message.toList.flatMap shownChar)

def Value.text : Value → String
  | plain text => text
  | quoted text => Text.quoted text
  | number n => toString n
  | flag b => if b then "true" else "false"

def Event.line (e : Event) : String :=
  e.level.name ++ " " ++ e.component.name ++ ": " ++ shownMessage e.message ++
    String.join (e.fields.map fun (name, value) => " " ++ name ++ "=" ++ value.text)

end GadgetModes.Log
