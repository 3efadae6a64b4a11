import GadgetModes.Toml.Scalar
import GadgetModes.Toml.Strings

/-!
# TOML documents

A document is a list of statements, one a line: headers, and keys with their values. The
statements are read first, within limits; then each of them is carried out on a table that
starts empty. `Document.read` gives the table, or nothing when the text is no document or is
beyond the limits.
-/

namespace GadgetModes.Toml

/-! ## Keys -/

def keyPart (s : List Char) : Option (String × List Char) :=
  match s with
  | [] => none
  | c :: rest =>
    if c = '"' || c = '\'' then lineString c rest
    else if isBare c then
      some (String.ofList (s.takeWhile isBare), s.dropWhile isBare)
    else none

/-- Reads the parts of a key, with dots between them and blanks around them. -/
def keyParts : Nat → List Char → Option (List String × List Char)
  | 0, _ => none
  | limit + 1, s => do
    let (part, rest) ← keyPart (skipBlanks s)
    match skipBlanks rest with
    | '.' :: rest =>
      let (parts, rest) ← keyParts limit rest
      return (part :: parts, rest)
    | rest => return ([part], rest)

def key (limits : Limits) (s : List Char) : Option (Key × List Char) := do
  let (parts, rest) ← keyParts limits.parts s
  let name ← parts.getLast?
  return (⟨parts.dropLast, name⟩, rest)

/-! ## Expressions -/

/-- A reader of one thing, which tells what follows. -/
abbrev Reader (α : Type) := List Char → Option (α × List Char)

def expect (c : Char) : List Char → Option (List Char)
  | [] => none
  | d :: rest => if d = c then some rest else none

def binding (limits : Limits) (value : Reader Expr) (s : List Char) :
    Option ((Key × Expr) × List Char) := do
  let (k, rest) ← key limits s
  let rest ← expect '=' rest
  let (e, rest) ← value (skipBlanks rest)
  return ((k, e), rest)

/-- Reads the items of an array up to its closing bracket. The last one may be followed by
a comma. -/
def arrayItems (value : Reader Expr) : Nat → List Char → Option (List Expr × List Char)
  | 0, _ => none
  | limit + 1, s =>
    match skipGaps false s with
    | ']' :: rest => some ([], rest)
    | s => do
      let (e, rest) ← value s
      match skipGaps false rest with
      | ',' :: rest =>
        let (es, rest) ← arrayItems value limit rest
        return (e :: es, rest)
      | ']' :: rest => return ([e], rest)
      | _ => none

/-- Reads the bindings of a table up to its closing brace. -/
def tableBindings (limits : Limits) (value : Reader Expr) :
    Nat → List Char → Option (List (Key × Expr) × List Char)
  | 0, _ => none
  | limit + 1, s => do
    let (b, rest) ← binding limits value s
    match skipBlanks rest with
    | ',' :: rest =>
      let (bs, rest) ← tableBindings limits value limit rest
      return (b :: bs, rest)
    | '\x7d' :: rest => return ([b], rest)
    | _ => none

/-- Reads an expression; arrays and tables in it may be nested up to a depth. -/
def expr (limits : Limits) : Nat → Reader Expr
  | depth, s =>
    match s with
    | [] => none
    | c :: rest =>
      if c = '"' || c = '\'' then
        let read := if rest.take 2 = [c, c] then linesString c (rest.drop 2) else lineString c rest
        read.map fun (text, rest) => (.string text, rest)
      else if c = '[' then
        match depth with
        | 0 => none
        | depth + 1 =>
          (arrayItems (expr limits depth) s.length rest).map fun (items, rest) =>
            (.array items, rest)
      else if c = '\x7b' then
        match depth with
        | 0 => none
        | depth + 1 =>
          match skipBlanks rest with
          | '\x7d' :: rest => some (.table [], rest)
          | rest =>
            (tableBindings limits (expr limits depth) s.length rest).map fun (bindings, rest) =>
              (.table bindings, rest)
      else
        let (token, rest) := cutScalar s
        (scalar? limits token).map fun e => (e, rest)

/-! ## Statements -/

/-- A line of a document. -/
inductive Statement where
  | header (key : Key)
  | nextHeader (key : Key)
  | entry (key : Key) (value : Expr)

/-- Reads a statement up to the end of its line. -/
def statement (limits : Limits) (s : List Char) : Option (Statement × List Char) :=
  match s with
  | '[' :: '[' :: rest => do
    let (k, rest) ← key limits rest
    let rest ← expect ']' rest
    let rest ← expect ']' rest
    let rest ← lineEnd? rest
    return (.nextHeader k, rest)
  | '[' :: rest => do
    let (k, rest) ← key limits rest
    let rest ← expect ']' rest
    let rest ← lineEnd? rest
    return (.header k, rest)
  | s => do
    let ((k, e), rest) ← binding limits (expr limits limits.nesting) s
    let rest ← lineEnd? rest
    return (.entry k e, rest)

/-- Reads statements up to the end, but no more than a number of them. -/
def statements (limits : Limits) : Nat → List Char → Option (List Statement)
  | 0, _ => none
  | limit + 1, s =>
    match skipGaps false s with
    | [] => some []
    | s => do
      let (first, rest) ← statement limits s
      let others ← statements limits limit rest
      return first :: others

/-! ## Documents -/

/-- A table in the making, with the path of the header that was read last. -/
structure Document where
  path : List String := []
  table : Table := []

namespace Document

def apply (d : Document) : Statement → Option Document
  | .header k => (d.table.openTable k).map fun t => ⟨k.path, t⟩
  | .nextHeader k => (d.table.openNext k).map fun t => ⟨k.path, t⟩
  | .entry k e =>
    e.value?.bind fun v =>
      (d.table.descend false (fun _ u => u.define k v) d.path .header).map fun t => ⟨d.path, t⟩

/-- A mark at the start of a text that says how it is encoded. -/
def byteOrderMark : Char := '\ufeff'

/-- The statements of a text. A mark at its start does not count. -/
def statementsOf (limits : Limits) (text : String) : Option (List Statement) :=
  let s := joinLineEnds text.toList
  let s := if s.head? = some byteOrderMark then s.drop 1 else s
  statements limits (s.length + 1) s

/-- The table that statements give when they are carried out one after the other. -/
def carryOut (sts : List Statement) : Option Table :=
  (sts.foldlM apply ({} : Document)).map (·.table)

/-- The table that a text gives, if it is a document and within the limits. -/
def read (text : String) : Option Table :=
  (statementsOf .usual text).bind carryOut

end Document

end GadgetModes.Toml
