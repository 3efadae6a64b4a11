import GadgetModes.KeyFile.Reader
import GadgetModes.Proofs.Text.Trim

/-!
# Key files line by line

How a key file is read off its lines, without a reader that goes over characters: a
line is empty, a comment, a header or an entry (`Line.Regular`), and says at most one
item (`Line.item?`). The value of a key is read off the lines of a block
(`lineValue?`): those between the first header of its name and the next header, the
last line with the key counting.

Blanks in front of a header, or alone on a line, are spaces and tabs as a rule. Others
count as blanks only in some lines (`leadsReadable`), since the reader takes spaces and
tabs at the start of a line for an indent and looks for a key right after it.
-/

namespace GadgetModes.KeyFile

open GadgetModes.Text

/-! ## Lines -/

/-- The lines of a text. A line ends with a line feed, or a carriage return and a line
feed; the last one may end with the text. -/
def linesOf : List Char → List (List Char)
  | [] => [[]]
  | '\n' :: cs => [] :: linesOf cs
  | '\r' :: '\n' :: cs => [] :: linesOf cs
  | c :: cs => (linesOf cs).modifyHead (c :: ·)

/-- What stands between the end of a line and the end of the text, by the lines in it. -/
inductive Follows : List Char → List (List Char) → Prop where
  | nothing : Follows [] []
  | feed (cs : List Char) : Follows ('\n' :: cs) (linesOf cs)
  | returnFeed (cs : List Char) : Follows ('\r' :: '\n' :: cs) (linesOf cs)

theorem linesOf_ne_nil (cs : List Char) : linesOf cs ≠ [] := by
  fun_induction linesOf cs with
  | case1 => simp
  | case2 => simp
  | case3 => simp
  | case4 c cs _ _ ih => simpa using ih

theorem linesOf_split {cs line : List Char} {more : List (List Char)}
    (h : linesOf cs = line :: more) : ∃ tail, cs = line ++ tail ∧ Follows tail more := by
  fun_induction linesOf cs generalizing line with
  | case1 =>
      obtain ⟨rfl, rfl⟩ := List.cons.inj h
      exact ⟨[], rfl, .nothing⟩
  | case2 cs =>
      obtain ⟨rfl, rfl⟩ := List.cons.inj h
      exact ⟨'\n' :: cs, rfl, .feed cs⟩
  | case3 cs =>
      obtain ⟨rfl, rfl⟩ := List.cons.inj h
      exact ⟨'\r' :: '\n' :: cs, rfl, .returnFeed cs⟩
  | case4 c cs _ _ ih =>
      cases hl : linesOf cs with
      | nil => exact absurd hl (linesOf_ne_nil cs)
      | cons first others =>
          rw [hl, List.modifyHead_cons] at h
          obtain ⟨rfl, rfl⟩ := List.cons.inj h
          obtain ⟨tail, rfl, htail⟩ := ih hl
          exact ⟨tail, rfl, htail⟩

theorem feed_not_mem_line {cs line : List Char} (h : line ∈ linesOf cs) : '\n' ∉ line := by
  fun_induction linesOf cs generalizing line with
  | case1 => simp_all
  | case2 cs ih =>
      rcases List.mem_cons.mp h with rfl | h
      · simp
      · exact ih h
  | case3 cs ih =>
      rcases List.mem_cons.mp h with rfl | h
      · simp
      · exact ih h
  | case4 c cs hc _ ih =>
      cases hl : linesOf cs with
      | nil => exact absurd hl (linesOf_ne_nil cs)
      | cons first others =>
          rw [hl, List.modifyHead_cons] at h
          rw [hl] at ih
          rcases List.mem_cons.mp h with rfl | h
          · have hfirst := ih (List.mem_cons_self ..)
            simp only [List.mem_cons, not_or]
            exact ⟨fun heq => hc heq.symm, hfirst⟩
          · exact ih (List.mem_cons_of_mem _ h)

/-! ## What a line says -/

namespace Line

/-- The characters that end a key. -/
def isSeparator (c : Char) : Bool :=
  c = '=' || c = ':'

inductive Regular : List Char → Prop where
  | blank {line : List Char} (h : AllBlank line) : Regular line
  | comment {mark : Char} {text : List Char} (h : mark = ';' ∨ mark = '#') :
      Regular (mark :: text)
  | header {before name after : List Char} (hbefore : AllBlank before)
      (hname : ∀ c ∈ name, c ≠ ']' ∧ c ≠ '\\') (htrim : trim name = name)
      (hafter : AllBlank after) : Regular (before ++ '[' :: (name ++ ']' :: after))
  | entry {before key text : List Char} {first separator : Char}
      (hbefore : AllBlank before) (hblank : isBlank first = false)
      (hfirst : first ≠ '[' ∧ first ≠ ';' ∧ first ≠ '#')
      (hkey : ∀ c ∈ first :: key, isSeparator c = false ∧ c ≠ '\\')
      (hseparator : isSeparator separator = true) (htext : text.getLast? ≠ some '\\') :
      Regular (before ++ first :: (key ++ separator :: text))

/-- What a line says, if anything. -/
def item? (line : List Char) : Option Item :=
  match trimStart line with
  | [] => none
  | '[' :: cs => some (.header (String.ofList (cs.takeWhile (· ≠ ']'))))
  | c :: cs =>
    if c = ';' ∨ c = '#' then none
    else
      let key := (c :: cs).takeWhile (!isSeparator ·)
      let text := ((c :: cs).dropWhile (!isSeparator ·)).drop 1
      some (.entry (String.ofList (trim key)) (String.ofList (trim text)))

def isHeader (line : List Char) : Bool :=
  match item? line with
  | some (.header _) => true
  | _ => false

def isEntry (line : List Char) : Bool :=
  match item? line with
  | some (.entry ..) => true
  | _ => false

/-- The value that a line gives a key, if it does. -/
def valueFor? (key : String) (line : List Char) : Option String :=
  match item? line with
  | some (.entry k v) => if k = key then some v else none
  | _ => none

/-- Whether the blanks in front are spaces and tabs. -/
def hasPlainLead (line : List Char) : Bool :=
  (line.takeWhile isBlank).all isIndent

/-- Whether a line consists of spaces and tabs, one at least. -/
def isIndentOnly (line : List Char) : Bool :=
  !line.isEmpty && line.all isIndent

end Line

/-- The lines of the first block with a name. -/
def blockLines (name : String) (lines : List (List Char)) : List (List Char) :=
  ((lines.dropWhile (Line.item? · ≠ some (.header name))).drop 1).takeWhile
    (!Line.isHeader ·)

/-- The value of a key: that of the last line which gives one, in the first block with
the name. -/
def lineValue? (lines : List (List Char)) (name key : String) : Option String :=
  (blockLines name lines).reverse.findSome? (Line.valueFor? key)

/-- Whether all blanks in front of headers, or alone on a line, can be read. Those other
than spaces and tabs have to start their line, which must be settled: it follows on
another line, and not on one of spaces and tabs. -/
def leadsReadable : Bool → List (List Char) → Bool
  | _, [] => true
  | settled, line :: lines =>
    (Line.isEntry line || Line.hasPlainLead line ||
        (settled && !line.head?.any isIndent))
      && leadsReadable (!Line.isIndentOnly line) lines

theorem leadsReadable_settled {settled : Bool} {lines : List (List Char)}
    (h : leadsReadable settled lines = true) : leadsReadable true lines = true := by
  cases lines with
  | nil => rfl
  | cons line lines =>
      simp only [leadsReadable, Bool.and_eq_true, Bool.or_eq_true] at h ⊢
      refine ⟨?_, h.2⟩
      rcases h.1 with h | ⟨-, h⟩
      · exact Or.inl h
      · exact Or.inr ⟨trivial, h⟩

/-! ## The item of each kind of line -/

namespace Line

theorem item?_blank {line : List Char} (h : AllBlank line) : item? line = none := by
  have hnil : trimStart line = [] := List.dropWhile_eq_nil_iff.mpr h
  simp [item?, hnil]

theorem trimStart_append {before : List Char} (hbefore : AllBlank before) {c : Char}
    (hc : isBlank c = false) (cs : List Char) : trimStart (before ++ c :: cs) = c :: cs := by
  rw [trimStart_append_blanks hbefore, trimStart, List.dropWhile_cons_of_neg (by simp [hc])]

theorem item?_comment {mark : Char} (h : mark = ';' ∨ mark = '#') (text : List Char) :
    item? (mark :: text) = none := by
  have hblank : isBlank mark = false := by rcases h with rfl | rfl <;> decide
  have hstart : trimStart (mark :: text) = mark :: text := by
    simp [trimStart, hblank]
  rcases h with rfl | rfl <;> simp [item?, hstart]

theorem item?_header {before name : List Char} (hbefore : AllBlank before)
    (hname : ∀ c ∈ name, c ≠ ']' ∧ c ≠ '\\') (after : List Char) :
    item? (before ++ '[' :: (name ++ ']' :: after)) =
      some (.header (String.ofList name)) := by
  rw [item?, trimStart_append hbefore (by decide)]
  show some (Item.header (String.ofList ((name ++ ']' :: after).takeWhile (· ≠ ']')))) = _
  rw [List.takeWhile_append_of_pos (by simpa using fun c hc => (hname c hc).1)]
  simp

theorem item?_entry {before key text : List Char} {first separator : Char}
    (hbefore : AllBlank before) (hblank : isBlank first = false)
    (hfirst : first ≠ '[' ∧ first ≠ ';' ∧ first ≠ '#')
    (hkey : ∀ c ∈ first :: key, isSeparator c = false ∧ c ≠ '\\')
    (hseparator : isSeparator separator = true) :
    item? (before ++ first :: (key ++ separator :: text)) =
      some (.entry (String.ofList (trim (first :: key))) (String.ofList (trim text))) := by
  have hpos : ∀ c ∈ first :: key, (!isSeparator c) = true := fun c hc => by
    simp [(hkey c hc).1]
  rw [item?, trimStart_append hbefore hblank]
  split
  · next h => cases h
  · next h => exact absurd (List.cons.inj h).1 hfirst.1
  · next c cs _ h =>
    obtain ⟨rfl, rfl⟩ := List.cons.inj h
    rw [if_neg (by simp [hfirst.2]), ← List.cons_append,
      List.takeWhile_append_of_pos hpos, List.dropWhile_append_of_pos hpos]
    simp [hseparator]

end Line

end GadgetModes.KeyFile
