import GadgetModes.KeyFile.Basic
import GadgetModes.Text.Blank

/-!
# Reading key files

The reader goes over the characters of the text from left to right. At the start of
an item it looks at one character:

* `;` and `#` open a comment, in the first column only, up to the end of the line;
* `[` opens a header, up to the next `]`;
* anything else begins a key, up to the next `=` or `:` on this line or a later one,
  and the value follows up to the end of the line. A key of blanks alone is missing.

A line that opens with spaces or tabs is read a little more leniently: a comment mark
there is part of the key, and a key without a separator ends the file.

Quotes have no meaning. A backslash joins a line to the next one, and keeps the
character after it from ending a name, a key or a value.

The dialect, with the faults and the places that they name, is that of version 0.21 of the
`ini` library when quotes and escapes are turned off in it.
-/

namespace GadgetModes.KeyFile

open GadgetModes.Text

/-! ## Places -/

/-- How much of a text was read: whole lines, and characters of the line after them. -/
structure Place where
  line : Nat := 0
  column : Nat := 0
deriving DecidableEq

def Place.next (p : Place) (c : Char) : Place :=
  if c = '\n' then ⟨p.line + 1, 0⟩ else ⟨p.line, p.column + 1⟩

/-- A point in the text: what was read up to it, and the characters that follow. -/
structure Cursor where
  place : Place
  rest : List Char
deriving DecidableEq

/-- What ends a name or a key. -/
inductive Closing where
  | bracket
  | separator
deriving DecidableEq

/-- Why a text is no key file. -/
inductive Defect where
  | inlineComment
  | missingKey
  | unended (closing : Closing)
deriving DecidableEq

/-- A defect with the place it was seen at. -/
structure Fault where
  place : Place
  defect : Defect
deriving DecidableEq

/-- The characters that a reader still looked for when the text ended. -/
def Closing.expected : Closing → String
  | bracket => "[Some(']')]"
  | separator => "[Some('='), Some(':')]"

def Defect.message : Defect → String
  | inlineComment => "doesn't support inline comment"
  | missingKey => "missing key"
  | unended closing => "expecting \"" ++ closing.expected ++ "\" but found EOF."

/-- The wording of a fault; lines and columns are counted from one. -/
def Fault.message (f : Fault) : String :=
  s!"{f.place.line + 1}:{f.place.column + 1} " ++ f.defect.message

/-! ## Pieces of text -/

def Closing.ends : Closing → Char → Bool
  | bracket, c => c = ']'
  | separator, c => c = '=' || c = ':'

def isLineEnd (c : Char) : Bool :=
  c = '\n' || c = '\r'

/-- A space or a tab. -/
def isIndent (c : Char) : Bool :=
  c = ' ' || c = '\t'

/-- A piece of text and the point after it. -/
structure Piece where
  text : List Char
  after : Cursor
deriving DecidableEq

def Piece.cons (c : Char) (p : Piece) : Piece :=
  ⟨c :: p.text, p.after⟩

/--
The text up to the first character that `stop` accepts. A backslash before a line feed
joins two lines and leaves nothing; before any other character it keeps that character
from stopping the piece, and both stand in the text.
-/
def piece (stop : Char → Bool) : Place → List Char → Piece
  | p, [] => ⟨[], p, []⟩
  | p, '\\' :: '\n' :: cs => piece stop ((p.next '\\').next '\n') cs
  | p, '\\' :: c :: cs => .cons '\\' (.cons c (piece stop ((p.next '\\').next c) cs))
  | p, c :: cs => if stop c then ⟨[], p, c :: cs⟩ else .cons c (piece stop (p.next c) cs)

/-- The point after all characters that `skip` accepts. -/
def skipWhile (skip : Char → Bool) : Place → List Char → Cursor
  | p, [] => ⟨p, []⟩
  | p, c :: cs => if skip c then skipWhile skip (p.next c) cs else ⟨p, c :: cs⟩

/-- The point after the next line feed. -/
def skipLine : Place → List Char → Cursor
  | p, [] => ⟨p, []⟩
  | p, c :: cs => if c = '\n' then ⟨p.next c, cs⟩ else skipLine (p.next c) cs

/-- The point after the blanks between two items. A space or a tab right after the end of
a line is left: it begins an indented line. -/
def skipBetween : Place → List Char → Cursor
  | p, [] => ⟨p, []⟩
  | p, c :: cs =>
    if isLineEnd c then
      match cs with
      | [] => ⟨p.next c, []⟩
      | d :: ds => if isIndent d then ⟨p.next c, d :: ds⟩ else skipBetween (p.next c) (d :: ds)
    else if isBlank c then skipBetween (p.next c) cs
    else ⟨p, c :: cs⟩

/-! ## Lengths -/

theorem piece_length_le (stop : Char → Bool) (p : Place) (cs : List Char) :
    (piece stop p cs).after.rest.length ≤ cs.length := by
  fun_induction piece stop p cs with
  | case1 => simp
  | case2 p cs ih => simp only [List.length_cons]; omega
  | case3 p c cs hc ih => simp only [Piece.cons, List.length_cons]; omega
  | case4 p c cs _ _ h => simp
  | case5 p c cs _ _ h ih => simp only [Piece.cons, List.length_cons]; omega

theorem skipWhile_length_le (skip : Char → Bool) (p : Place) (cs : List Char) :
    (skipWhile skip p cs).rest.length ≤ cs.length := by
  fun_induction skipWhile skip p cs with
  | case1 => simp
  | case2 p c cs h ih => simp only [List.length_cons]; omega
  | case3 => simp

theorem skipLine_length_le (p : Place) (cs : List Char) :
    (skipLine p cs).rest.length ≤ cs.length := by
  fun_induction skipLine p cs with
  | case1 => simp
  | case2 => simp
  | case3 p c cs h ih => simp only [List.length_cons]; omega

theorem skipBetween_length_le (p : Place) (cs : List Char) :
    (skipBetween p cs).rest.length ≤ cs.length := by
  fun_induction skipBetween p cs with
  | case1 => simp
  | case2 => simp
  | case3 => simp
  | case4 p c hc d ds hd ih => simp only [List.length_cons] at *; omega
  | case5 p c cs hc hb ih => simp only [List.length_cons]; omega
  | case6 => simp

/-! ## Items -/

/-- What one look at the text gives: an item or none, and the point after it. -/
structure Step where
  item? : Option Item
  after : Cursor
deriving DecidableEq

/-- The point after a step, past the blanks before the next item. -/
def Step.settle (s : Step) : Step :=
  { s with after := skipBetween s.after.place s.after.rest }

/-- A header, read from the character after its opening bracket. -/
def header (p : Place) (cs : List Char) : Except Fault Step :=
  match piece Closing.bracket.ends p cs with
  | ⟨_, q, []⟩ => .error ⟨q, .unended .bracket⟩
  | ⟨name, q, c :: rest⟩ =>
    .ok ⟨some (.header (String.ofList (trim name))), q.next c, rest⟩

/-- The value of an entry, read from the character after its separator. -/
def entry (key : List Char) (p : Place) (cs : List Char) : Step :=
  let start := skipWhile (fun c => isBlank c && !isLineEnd c) p cs
  let value := piece isLineEnd start.place start.rest
  ⟨some (.entry (String.ofList (trim key)) (String.ofList (trim value.text))), value.after⟩

/-- An entry, read from the first character of its key. A key is more than blanks. -/
def keyed (p : Place) (cs : List Char) : Except Fault Step :=
  match piece Closing.separator.ends p cs with
  | ⟨_, q, []⟩ => .error ⟨q, .unended .separator⟩
  | ⟨key, q, c :: rest⟩ =>
    if (trim key).isEmpty then .error ⟨q.next c, .missingKey⟩
    else .ok (entry key (q.next c) rest)

/-- A line that opens with spaces or tabs, read from the first character after them. -/
def indented (p : Place) : List Char → Except Fault Step
  | [] => .ok ⟨none, p, []⟩
  | '[' :: cs => (header (p.next '[') cs).map Step.settle
  | c :: cs =>
    if isLineEnd c then .ok ⟨none, p.next c, cs⟩
    else match keyed p (c :: cs) with
      | .ok s => .ok s.settle
      | .error ⟨q, .unended _⟩ => .ok ⟨none, q, []⟩
      | .error f => .error f

/-- One step of the reader, at a text that has not ended. -/
def step (p : Place) (c : Char) (cs : List Char) : Except Fault Step :=
  if c = ';' ∨ c = '#' then
    if p.column = 0 then .ok (Step.settle ⟨none, skipLine (p.next c) cs⟩)
    else .error ⟨p.next c, .inlineComment⟩
  else if c = '[' then (header (p.next c) cs).map Step.settle
  else if isIndent c then
    let line := skipWhile isIndent (p.next c) cs
    indented line.place line.rest
  else if isLineEnd c then .ok (Step.settle ⟨none, p.next c, cs⟩)
  else (keyed p (c :: cs)).map Step.settle

/-! ## A step consumes its first character -/

theorem settle_length_le (s : Step) : s.settle.after.rest.length ≤ s.after.rest.length :=
  skipBetween_length_le s.after.place s.after.rest

theorem header_length_le {p : Place} {cs : List Char} {s : Step}
    (h : header p cs = .ok s) : s.after.rest.length ≤ cs.length := by
  have hle := piece_length_le Closing.bracket.ends p cs
  unfold header at h
  split at h
  · cases h
  · rename_i name q c rest heq
    cases h
    rw [heq] at hle
    simp only [List.length_cons] at hle ⊢
    omega

theorem entry_length_le (key : List Char) (p : Place) (cs : List Char) :
    (entry key p cs).after.rest.length ≤ cs.length :=
  Nat.le_trans (piece_length_le ..) (skipWhile_length_le ..)

theorem keyed_length_lt {p : Place} {cs : List Char} {s : Step}
    (h : keyed p cs = .ok s) : s.after.rest.length < cs.length := by
  have hle := piece_length_le Closing.separator.ends p cs
  unfold keyed at h
  split at h
  · cases h
  · rename_i key q c rest heq
    split at h
    · cases h
    · cases h
      rw [heq] at hle
      have := entry_length_le key (q.next c) rest
      simp only [List.length_cons] at hle
      omega

theorem settled_length_le {r : Except Fault Step} {s : Step} {n : Nat}
    (hr : ∀ t, r = .ok t → t.after.rest.length ≤ n) (h : r.map Step.settle = .ok s) :
    s.after.rest.length ≤ n := by
  cases r with
  | error f => cases h
  | ok t =>
    cases h
    exact Nat.le_trans (settle_length_le t) (hr t rfl)

theorem indented_length_le {p : Place} {cs : List Char} {s : Step}
    (h : indented p cs = .ok s) : s.after.rest.length ≤ cs.length := by
  unfold indented at h
  split at h
  · cases h; simp
  · exact Nat.le_succ_of_le (settled_length_le (fun _ => header_length_le) h)
  · split at h
    · cases h; simp
    · split at h
      · rename_i t ht
        cases h
        exact Nat.le_trans (settle_length_le t) (Nat.le_of_lt (keyed_length_lt ht))
      · cases h; simp
      · cases h

theorem step_length_le {p : Place} {c : Char} {cs : List Char} {s : Step}
    (h : step p c cs = .ok s) : s.after.rest.length ≤ cs.length := by
  unfold step at h
  split at h
  · split at h
    · cases h
      exact Nat.le_trans (settle_length_le _) (skipLine_length_le ..)
    · cases h
  · split at h
    · exact settled_length_le (fun _ => header_length_le) h
    · split at h
      · exact Nat.le_trans (indented_length_le h) (skipWhile_length_le ..)
      · split at h
        · cases h
          exact settle_length_le _
        · refine settled_length_le (fun t ht => ?_) h
          have := keyed_length_lt ht
          simp only [List.length_cons] at this
          omega

/-! ## The reader -/

def itemsFrom (p : Place) (cs : List Char) : Except Fault (List Item) :=
  match cs with
  | [] => .ok []
  | c :: cs =>
    match _h : step p c cs with
    | .error f => .error f
    | .ok s => (itemsFrom s.after.place s.after.rest).map (s.item?.toList ++ ·)
termination_by cs.length
decreasing_by exact Nat.lt_succ_of_le (step_length_le _h)

def read (text : String) : Except Fault KeyFile :=
  (itemsFrom {} text.toList).map KeyFile.mk

end GadgetModes.KeyFile
