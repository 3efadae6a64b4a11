import GadgetModes.Log.Event
import GadgetModes.Text.Blank
import GadgetModes.Text.Integer
import GadgetModes.Text.Utf8

/-!
# Log filters

A filter is a list of directives. Each says which events it is about, by the start of the
component's name and by a field that the event must have, and the least level that these
may have. The most specific directive about an event decides, the last one of several;
an event that no directive is about is not reported.

A text gives a filter when each of its parts between commas is a level, or a name with a
selection in brackets and an equals sign with a level after it, where each of the three
may be missing. This is the language of the environment filters in version 0.3 of the
`tracing-subscriber` library.
-/

namespace GadgetModes.Log

open GadgetModes.Text

/-- What some events are held to: to be left out, or to have some level. -/
structure Directive where
  /-- How the names of components start. -/
  target : String := ""
  /-- A field that events must have. -/
  field : Option String := none
  /-- Whether the directive is about events within spans of work. The daemon has no spans. -/
  withinSpan : Bool := false
  least : Option Level := some .trace
deriving DecidableEq

abbrev Filter := List Directive

namespace Directive

/-- The names of levels in filters; their places are the numbers that stand for them. -/
def levels : List (String × Option Level) :=
  [("off", none), ("error", some .error), ("warn", some .warn), ("info", some .info),
   ("debug", some .debug), ("trace", some .trace)]

/-- A text with the letters of ASCII in their small form. -/
def lower (text : String) : String :=
  String.ofList (text.toList.map Char.toLower)

/-- The number of a level, perhaps with a plus sign. -/
def number? : List Char → Option Nat
  | '+' :: digits => readDigits digits
  | digits => readDigits digits

/-- The level with a number, or a name in large or small letters. -/
def level? (text : List Char) : Option (Option Level) :=
  ((number? text).bind (levels[·]?) <|>
    levels.find? (·.1 = lower (String.ofList text))).map (·.2)

/-- The directive with the level that follows it. Without a level everything goes through. -/
def withLevel? (d : Directive) : List Char → Option Directive
  | [] => some d
  | '=' :: [] => some d
  | '=' :: level => (level? level).map fun least => { d with least }
  | _ => none

/-- The directive with the selection that follows an opening bracket: a span, or a field
in braces, or both. A field with a value is one of a span. -/
def withSelection? (d : Directive) (text : List Char) : Option Directive :=
  let span := text.takeWhile fun c => c ≠ ']' ∧ c ≠ '\x7b'
  match text.dropWhile fun c => c ≠ ']' ∧ c ≠ '\x7b' with
  | ']' :: rest => withLevel? { d with withinSpan := true } rest
  | _ :: text =>
    let field := text.takeWhile (· ≠ '\x7d')
    match text.dropWhile (· ≠ '\x7d') with
    | _ :: ']' :: rest =>
      if field.isEmpty then none
      else withLevel?
        { d with
          field := some (String.ofList field)
          withinSpan := !span.isEmpty || field.contains '=' } rest
    | _ => none
  | [] => none

/-- A character that a name can start with; outside of ASCII all are taken for letters. -/
def startsName (c : Char) : Bool :=
  c.isAlphanum || c = '_' || c = ':' || c = '-' || 0x80 ≤ c.toNat

/-- Reads a directive that starts with a name, or a level that stands alone. A level after
a name is not read when blanks stand before the name. -/
def named? (text : List Char) : Option Directive :=
  let target := text.takeWhile fun c => c ≠ '=' ∧ c ≠ '['
  let d : Directive := { target := String.ofList target }
  match text.dropWhile fun c => c ≠ '=' ∧ c ≠ '[' with
  | [] => match level? text with
    | some least => some { least }
    | none => some d
  | '[' :: selection => d.withSelection? selection
  | level => if text.head?.any isBlank then none else d.withLevel? level

def ofText? (text : String) : Option Directive :=
  match trimStart text.toList with
  | '[' :: selection => withSelection? {} selection
  | c :: _ => if startsName c then named? text.toList else none
  | [] => none

/-- Whether an event has a field. All have a message. -/
def hasField (e : Event) (name : String) : Bool :=
  name = "message" || e.fields.any (·.1 = name)

def isAbout (d : Directive) (e : Event) : Bool :=
  !d.withinSpan && d.target.toList.isPrefixOf e.component.name.toList &&
    d.field.all (hasField e)

def allows (d : Directive) (level : Level) : Bool :=
  d.least.any fun least => least.rank ≤ level.rank

/-- Whether the second directive is at least as specific as the first: its target is
longer, or as long and its field comes no earlier, where having none comes first. -/
def leSpecific (a b : Directive) : Bool :=
  a.target.length < b.target.length ||
    a.target.length = b.target.length &&
      match a.field, b.field with
      | none, _ => true
      | some _, none => false
      | some x, some y => bytesLe x y

end Directive

namespace Filter

/-- The more specific of two directives; of two that are as specific, the second one. -/
def prefer (best : Option Directive) (d : Directive) : Option Directive :=
  match best with
  | none => some d
  | some b => if b.leSpecific d then some d else some b

def decisive? (f : Filter) (e : Event) : Option Directive :=
  (f.filter (·.isAbout e)).foldl prefer none

def passes (f : Filter) (e : Event) : Bool :=
  (f.decisive? e).any (·.allows e.level)

def ofText? (text : String) : Option Filter :=
  ((text.splitOn ",").filter (· ≠ "")).mapM Directive.ofText?

end Filter

end GadgetModes.Log
