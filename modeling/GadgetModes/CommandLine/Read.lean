import GadgetModes.CommandLine.Basic

/-!
# Reading command lines

Arguments are read one after the other. The value of an option may be a part of the same
argument or the argument after it. In the second case the option is only carried out when
the next one is met, or at the end: what is wrong with an argument in between is said
first. Arguments are read in the way of version 4 of the `clap` library.
-/

namespace GadgetModes.CommandLine

/-- Why reading stops. -/
inductive Stop where
  | fault (fault : Fault)
  | help
  | version
deriving DecidableEq

/-- An option that was met but not carried out, with its value if that was met as well. -/
structure Pending where
  switch : Switch
  value : Option String := none
deriving DecidableEq

/-- What was read so far. -/
structure Progress where
  line : CommandLine := {}
  pending : Option Pending := none
  /-- Whether all arguments to come are taken as they are. -/
  plain : Bool := false
deriving DecidableEq

/-- The result of reading something. -/
abbrev Reading (α : Type) := Except Stop α

def fail {α : Type} (f : Fault) : Reading α :=
  .error (.fault f)

/-- A path; an empty one is none. -/
def path (s : Switch) (value : String) : Reading String :=
  if value.isEmpty then fail (.valueMissing s) else .ok value

/-- Sets what was not set before. -/
def once {α : Type} (s : Switch) (before : Option α) (read : Reading α) : Reading (Option α) :=
  if before.isSome then fail (.repeated s) else read.map some

/-- Carries out an option with a value. -/
def setValue (l : CommandLine) (s : Switch) (value : String) : Reading CommandLine :=
  match s with
  | .config => (once s l.config (path s value)).map fun v => { l with config := v }
  | .modeDir => (once s l.modeDir (path s value)).map fun v => { l with modeDir := v }
  | .diagDir => (once s l.diagDir (path s value)).map fun v => { l with diagDir := v }
  | .logLevel =>
    let read : Reading Log.Level := match level? value with
      | some level => .ok level
      | none => fail (if value.isEmpty then .valueMissing s else .invalidValue s value)
    (once s l.level read).map fun v => { l with level := v }
  | _ => .ok l

/-- Carries out an option without a value. -/
def setFlag (l : CommandLine) (s : Switch) : Reading CommandLine :=
  match s with
  | .diag => if l.diagnostic then fail (.repeated s) else .ok { l with diagnostic := true }
  | .verbose => .ok { l with verbosity := l.verbosity + 1 }
  | .help => .error .help
  | .version => .error .version
  | _ => .ok l

/-- Carries out the option that is pending. -/
def settle (p : Progress) : Reading Progress :=
  match p.pending with
  | none => .ok p
  | some ⟨s, none⟩ => fail (.valueMissing s)
  | some ⟨s, some value⟩ =>
    (setValue p.line s value).map fun line => { p with line, pending := none }

/-- Meets an option, with a value in the same argument if it takes one and has one. -/
def meetSwitch (p : Progress) (s : Switch) (value : Option String) : Reading Progress := do
  let p ← settle p
  if s.takesValue then
    match value with
    | some v => (setValue p.line s v).map fun line => { p with line }
    | none => return { p with pending := some ⟨s, none⟩ }
  else (setFlag p.line s).map fun line => { p with line }

/-- A value that stands directly after a letter, or after an equals sign there. -/
def attached (rest : List Char) : Option String :=
  match rest with
  | [] => none
  | c :: value => some (String.ofList (if c = '=' then value else rest))

def meetLetters (p : Progress) : List Char → Reading Progress
  | [] => .ok p
  | c :: rest =>
    match Switch.ofLetter? c with
    | none => fail (.unexpected (String.ofList ['-', c]))
    | some s =>
      if s.takesValue then meetSwitch p s (attached rest)
      else (meetSwitch p s none).bind fun p => meetLetters p rest

/-- Meets a long name after two dashes, with a value after an equals sign if there is
one. -/
def meetLong (p : Progress) (body : List Char) : Reading Progress :=
  let name := String.ofList (body.takeWhile (· ≠ '='))
  let value := (body.dropWhile (· ≠ '=')).tail?.map String.ofList
  match Switch.ofLong? name, value with
  | none, _ => fail (.unexpected ("--" ++ name))
  | some s, some v => if s.takesValue then meetSwitch p s value else fail (.unexpectedValue s v)
  | some s, none => meetSwitch p s none

/-- Meets an argument that is no option: the value of the one before, or one too many. -/
def meetPlain (p : Progress) (argument : String) : Reading Progress :=
  match p.plain, p.pending with
  | false, some ⟨s, none⟩ => .ok { p with pending := some ⟨s, some argument⟩ }
  | _, _ => fail (.unexpected argument)

def meet (p : Progress) (argument : String) : Reading Progress :=
  if p.plain then meetPlain p argument
  else
    match argument.toList with
    | ['-', '-'] => .ok { p with plain := true }
    | '-' :: '-' :: body => meetLong p body
    | '-' :: c :: rest => meetLetters p (c :: rest)
    | _ => meetPlain p argument

def read (arguments : List String) : Reading CommandLine := do
  let p ← arguments.foldlM meet ({} : Progress)
  return (← settle p).line

end GadgetModes.CommandLine
