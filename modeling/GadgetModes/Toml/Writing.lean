import GadgetModes.Toml.Characters

/-!
# Writing TOML

A text is written between quotes in the first of these forms that carries it as it is: on one
line between double quotes, on one line between single quotes, then on several lines between
three quotes of either kind. One that none of them carries is written with escapes. On several
lines, a text that has line ends starts on a line of its own. These are the choices of the pretty
writer in version 0.8 of the `toml` library.
-/

namespace GadgetModes.Toml

/-! ## Forms -/

/-- How a text is written: with escapes between double quotes or as it is between single ones,
on one line or on several. -/
structure Form where
  escapes : Bool
  lines : Bool
deriving DecidableEq

namespace Form

def basic : Form := ⟨true, false⟩
def literal : Form := ⟨false, false⟩
def basicLines : Form := ⟨true, true⟩
def literalLines : Form := ⟨false, true⟩

def quote (f : Form) : Char :=
  if f.escapes then '"' else '\''

/-- How many quotes in a row a form can carry. -/
def spare (f : Form) : Nat :=
  if f.lines then 2 else 0

/-- What stands in front of a text and after it. -/
def delimiter (f : Form) : List Char :=
  List.replicate (f.spare + 1) f.quote

end Form

/-- Whether a character has no form but an escape. -/
def isControl (c : Char) : Bool :=
  c ≠ '\n' && !isText c

/-- The largest number of quotes in a row, in a text that follows some of them. -/
def longestRun (quote : Char) (current : Nat) : List Char → Nat
  | [] => current
  | c :: rest =>
    if c = quote then longestRun quote (current + 1) rest
    else max current (longestRun quote 0 rest)

/-- The form that a text is written in. -/
def formOf (text : List Char) : Form :=
  let controls := text.any isControl
  let backslash := text.contains '\\'
  let newline := text.contains '\n'
  let doubles := longestRun '"' 0 text
  let singles := longestRun '\'' 0 text
  if !controls && !backslash && doubles = 0 && !newline then .basic
  else if !controls && singles = 0 && !newline then .literal
  else if !controls && !backslash && doubles ≤ 2 then .basicLines
  else if !controls && singles ≤ 2 then .literalLines
  else if newline then .basicLines
  else .basic

/-! ## Escapes -/

/-- A digit in base sixteen. -/
def hexDigit (n : Nat) : Char :=
  (Nat.digitChar n).toUpper

/-- A character with its escape, if it needs one. -/
def escape (c : Char) : List Char :=
  if c = '\\' then ['\\', '\\']
  else if c = '\x08' then ['\\', 'b']
  else if c = '\t' then ['\\', 't']
  else if c = '\n' then ['\\', 'n']
  else if c = '\x0c' then ['\\', 'f']
  else if c = '\r' then ['\\', 'r']
  else if isText c then [c]
  else ['\\', 'u', '0', '0', hexDigit (c.toNat / 16), hexDigit (c.toNat % 16)]

/-- A text with escapes, after some double quotes. Those that a form cannot carry are escaped,
and so are line ends that would end the string. -/
def escaped (f : Form) : Nat → List Char → List Char
  | _, [] => []
  | quotes, c :: rest =>
    if c = '"' then
      if quotes < f.spare then c :: escaped f (quotes + 1) rest
      else '\\' :: c :: escaped f 0 rest
    else if c = '\n' && f.lines then c :: escaped f 0 rest
    else escape c ++ escaped f 0 rest

/-! ## Lines -/

/-- A text in a form. -/
def writtenIn (f : Form) (text : List Char) : List Char :=
  f.delimiter ++ (if f.lines && text.contains '\n' then ['\n'] else [])
    ++ (if f.escapes then escaped f 0 text else text) ++ f.delimiter

def writtenTruth (b : Bool) : List Char :=
  if b then "true".toList else "false".toList

/-- A line with a key and a value that is written already. -/
def entryLine (key : String) (value : List Char) : List Char :=
  key.toList ++ " = ".toList ++ value ++ ['\n']

/-- A line with the header of a table. -/
def headerLine (name : String) : List Char :=
  '[' :: name.toList ++ [']', '\n']

end GadgetModes.Toml
