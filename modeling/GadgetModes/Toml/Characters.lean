/-!
# Characters of TOML

The classes of characters, what may stand between tokens, and the ends of lines. A line
ends in a line feed; one that ends in a carriage return and a line feed is turned into
such a line first, so that a carriage return elsewhere is a control like any other.

Here and in the other modules the language is that of TOML 1.0, as version 0.8 of the `toml`
library reads and writes it.
-/

namespace GadgetModes.Toml

/-- A blank between tokens of one line. -/
def isBlank (c : Char) : Bool :=
  c = ' ' || c = '\t'

/-- A character of comments and strings: no control but the tab. -/
def isText (c : Char) : Bool :=
  c = '\t' || (32 ≤ c.toNat && c.toNat ≠ 127)

def isDigit (c : Char) : Bool :=
  '0' ≤ c && c ≤ '9'

/-- A letter from A to Z, large or small. -/
def isLetter (c : Char) : Bool :=
  ('a' ≤ c && c ≤ 'z') || ('A' ≤ c && c ≤ 'Z')

/-- A character of keys without quotes. -/
def isBare (c : Char) : Bool :=
  isLetter c || isDigit c || c = '_' || c = '-'

/-- A character of values without quotes and brackets. -/
def isScalar (c : Char) : Bool :=
  isBare c || c = '+' || c = '.' || c = ':'

/-- The value of a digit in bases up to sixteen. -/
def digitValue? (c : Char) : Option Nat :=
  if isDigit c then some (c.toNat - 48)
  else if 'a' ≤ c && c ≤ 'f' then some (c.toNat - 87)
  else if 'A' ≤ c && c ≤ 'F' then some (c.toNat - 55)
  else none

/-- Lines that end in a carriage return and a line feed end in a line feed. -/
def joinLineEnds : List Char → List Char
  | '\r' :: '\n' :: rest => '\n' :: joinLineEnds rest
  | c :: rest => c :: joinLineEnds rest
  | [] => []

def skipBlanks (s : List Char) : List Char :=
  s.dropWhile isBlank

/-- What follows blanks, line ends and comments. A comment goes on to the end of its line,
or to a character that no comment may hold. -/
def skipGaps (inComment : Bool) : List Char → List Char
  | [] => []
  | c :: rest =>
    if c = '\n' then skipGaps false rest
    else if inComment then if isText c then skipGaps true rest else c :: rest
    else if isBlank c then skipGaps false rest
    else if c = '#' then skipGaps true rest
    else c :: rest

/-- What follows the end of a line, before which there may be blanks and a comment. -/
def lineEnd? (s : List Char) : Option (List Char) :=
  let s := skipBlanks s
  let s := if s.head? = some '#' then s.dropWhile isText else s
  match s with
  | [] => some []
  | c :: rest => if c = '\n' then some rest else none

end GadgetModes.Toml
