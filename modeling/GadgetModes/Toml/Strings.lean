import GadgetModes.Toml.Characters

/-!
# Strings of TOML

There are four kinds of strings: on one line or on several, with escapes or without. A
string is cut off at its closing quotes first; then its body is decoded.
-/

namespace GadgetModes.Toml

/-! ## Cutting a string off -/

/-- The body before a closing quote, and what follows it. With escapes on, a backslash
keeps the next character from closing. -/
def cutLine (quote : Char) (escapes : Bool) : List Char → Option (List Char × List Char)
  | [] => none
  | c :: rest =>
    if c = quote then some ([], rest)
    else if escapes && c = '\\' then
      match rest with
      | [] => none
      | d :: rest => (cutLine quote escapes rest).map fun (body, rest) => (c :: d :: body, rest)
    else (cutLine quote escapes rest).map fun (body, rest) => (c :: body, rest)

/-- The body before three closing quotes, and what follows them. Up to two more quotes at
the end belong to the body. -/
def cutLines (quote : Char) (escapes : Bool) : List Char → Option (List Char × List Char)
  | [] => none
  | c :: rest =>
    if c = quote && rest.take 2 = [quote, quote] then
      let rest := rest.drop 2
      let extra := ((rest.take 2).takeWhile (· = quote)).length
      some (List.replicate extra quote, rest.drop extra)
    else if escapes && c = '\\' then
      match rest with
      | [] => none
      | d :: rest => (cutLines quote escapes rest).map fun (body, rest) => (c :: d :: body, rest)
    else (cutLines quote escapes rest).map fun (body, rest) => (c :: body, rest)

/-! ## Decoding a body -/

/-- The character that a letter after a backslash stands for. -/
def escaped? (c : Char) : Option Char :=
  if c = 'b' then some '\x08'
  else if c = 't' then some '\t'
  else if c = 'n' then some '\n'
  else if c = 'f' then some '\x0c'
  else if c = 'r' then some '\r'
  else if c = '"' || c = '\\' then some c
  else none

/-- The character with a code point. -/
def charOf? (n : Nat) : Option Char :=
  if n.isValidChar then some (Char.ofNat n) else none

/-- Where a decoder stands: in text, after a backslash, in a code point with some digits to
come, after a backslash that must end its line, or where such a line has ended. -/
inductive Place where
  | text
  | escape
  | code (left value : Nat)
  | beforeEnd
  | afterEnd
deriving DecidableEq

/-- Decodes a body with escapes. On several lines, a backslash at the end of a line takes
away the line end and the blanks and line ends after it. -/
def decode (lines : Bool) : Place → List Char → Option (List Char)
  | .text, [] | .afterEnd, [] => some []
  | _, [] => none
  | .text, c :: rest =>
    if c = '\\' then decode lines .escape rest
    else if isText c || (lines && c = '\n') then (decode lines .text rest).map (c :: ·)
    else none
  | .escape, c :: rest =>
    if c = 'u' then decode lines (.code 4 0) rest
    else if c = 'U' then decode lines (.code 8 0) rest
    else if lines && isBlank c then decode lines .beforeEnd rest
    else if lines && c = '\n' then decode lines .afterEnd rest
    else (escaped? c).bind fun d => (decode lines .text rest).map (d :: ·)
  | .code left value, c :: rest =>
    (digitValue? c).bind fun d =>
      let value := 16 * value + d
      if left ≤ 1 then (charOf? value).bind fun e => (decode lines .text rest).map (e :: ·)
      else decode lines (.code (left - 1) value) rest
  | .beforeEnd, c :: rest =>
    if isBlank c then decode lines .beforeEnd rest
    else if c = '\n' then decode lines .afterEnd rest
    else none
  | .afterEnd, c :: rest =>
    if isBlank c || c = '\n' then decode lines .afterEnd rest
    else if c = '\\' then decode lines .escape rest
    else if isText c then (decode lines .text rest).map (c :: ·)
    else none

/-- A body without escapes. -/
def literal? (lines : Bool) (body : List Char) : Option (List Char) :=
  if body.all fun c => isText c || (lines && c = '\n') then some body else none

/-! ## Reading a string -/

/-- Reads a string on one line, from after its opening quote. -/
def lineString (quote : Char) (s : List Char) : Option (String × List Char) := do
  let escapes := quote = '"'
  let (body, rest) ← cutLine quote escapes s
  let text ← if escapes then decode false .text body else literal? false body
  return (String.ofList text, rest)

/-- Reads a string on several lines, from after its opening quotes. A line end right there
does not count. -/
def linesString (quote : Char) (s : List Char) : Option (String × List Char) := do
  let escapes := quote = '"'
  let s := if s.head? = some '\n' then s.drop 1 else s
  let (body, rest) ← cutLines quote escapes s
  let text ← if escapes then decode true .text body else literal? true body
  return (String.ofList text, rest)

end GadgetModes.Toml
