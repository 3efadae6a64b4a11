import GadgetModes.Config.Basic
import GadgetModes.Toml.Value

/-!
# Configurations from TOML

A schema lists the fields of a structure in order, each with a way to read it. A table
sets the fields that it has keys for, in the order of its keys; other keys do not matter.
An array sets the fields from the first one on. A date or a time counts as a table that
has none of the keys. What is not set keeps its default.
-/

namespace GadgetModes.Config

open GadgetModes.Toml

/-- What a value was to be. -/
inductive Expected where
  | path
  | text
  | truth
  | modes
  | features
  | logging
  | config
deriving DecidableEq

/-- What a value was to be, in words. -/
def Expected.shown : Expected → String
  | path => "path string"
  | text => "a string"
  | truth => "a boolean"
  | modes => "struct ModesConfig"
  | features => "struct FeaturesConfig"
  | logging => "struct LoggingConfig"
  | config => "struct DaemonConfig"

/-- A value that is not what it was to be. -/
structure TypeFault where
  found : Value
  expected : Expected

def TypeFault.message (f : TypeFault) : String :=
  "invalid type: " ++ f.found.shown ++ ", expected " ++ f.expected.shown

/-- A field of a structure, and how a value changes it. -/
structure Field (α : Type) where
  key : String
  set : Value → α → Except TypeFault α

/-- The fields of a structure in order. -/
structure Schema (α : Type) where
  name : Expected
  fields : List (Field α)

namespace Schema

variable {α : Type}

def setKey (s : Schema α) (a : α) (entry : String × Value) : Except TypeFault α :=
  match s.fields.find? (·.key = entry.1) with
  | some field => field.set entry.2 a
  | none => .ok a

/-- Sets the fields that a table has keys for. -/
def overlay (s : Schema α) (t : Table) (a : α) : Except TypeFault α :=
  t.foldlM s.setKey a

/-- Changes a structure by a value. -/
def set (s : Schema α) (v : Value) (a : α) : Except TypeFault α :=
  match v with
  | .table _ t => s.overlay t a
  | .moment _ => .ok a
  | v =>
    match v.items? with
    | some items => (s.fields.zip items).foldlM (fun a (field, v) => field.set v a) a
    | none => .error ⟨v, s.name⟩

end Schema

def textField {α : Type} (expected : Expected) (key : String) (put : String → α → α) :
    Field α where
  key := key
  set
    | .string text, a => .ok (put text a)
    | v, _ => .error ⟨v, expected⟩

def truthField {α : Type} (key : String) (put : Bool → α → α) : Field α where
  key := key
  set
    | .boolean b, a => .ok (put b a)
    | v, _ => .error ⟨v, .truth⟩

def structField {α β : Type} (key : String) (schema : Schema β) (get : α → β)
    (put : β → α → α) : Field α where
  key := key
  set v a := (schema.set v (get a)).map fun b => put b a

/-- The fields about modes. -/
def modesSchema : Schema Modes :=
  ⟨.modes,
    [textField .path "dir" fun text m => { m with dir := text },
     textField .path "diag_dir" fun text m => { m with diagDir := text },
     truthField "diagnostic" fun b m => { m with diagnostic := b }]⟩

/-- The fields about what is optional. -/
def featuresSchema : Schema Features :=
  ⟨.features, [truthField "tethering" fun b f => { f with tethering := b }]⟩

/-- The fields about the log. -/
def loggingSchema : Schema Logging :=
  ⟨.logging, [textField .text "level" fun text l => { l with level := text }]⟩

def schema : Schema Config :=
  ⟨.config,
    [structField "modes" modesSchema (·.modes) fun m c => { c with modes := m },
     structField "features" featuresSchema (·.features) fun f c => { c with features := f },
     structField "logging" loggingSchema (·.logging) fun l c => { c with logging := l }]⟩

/-- The defaults with what a document sets. -/
def ofTable (t : Table) : Except TypeFault Config :=
  schema.overlay t {}

end GadgetModes.Config
