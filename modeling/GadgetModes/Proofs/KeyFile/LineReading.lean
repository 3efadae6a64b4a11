import Mathlib.Data.Set.Image
import GadgetModes.Proofs.KeyFile.Lines

/-!
# The reader on lines

The reader finds in a text the items of its lines (`read_eq_items`). The induction is on
the lines. Between two of them the reader is at one of two points, and the statement is
made for both: right in front of a line, where spaces and tabs are an indent, or in
front of a line with the blanks at its start being skipped.

What comes after some lines need not be lines that can be read. So the induction is for any
outcomes that reading may come to from there on (`Readable.append`).
-/

namespace GadgetModes.KeyFile

open GadgetModes.Text

/-! ## Pieces of a line -/

def Unbroken (cs : List Char) : Prop :=
  ∀ c ∈ cs, isLineEnd c = false

theorem Unbroken.of_append_left {cs ds : List Char} (h : Unbroken (cs ++ ds)) : Unbroken cs :=
  fun c hc => h c (List.mem_append_left _ hc)

theorem Unbroken.of_append_right {cs ds : List Char} (h : Unbroken (cs ++ ds)) :
    Unbroken ds :=
  fun c hc => h c (List.mem_append_right _ hc)

theorem Unbroken.of_cons {c : Char} {cs : List Char} (h : Unbroken (c :: cs)) : Unbroken cs :=
  fun d hd => h d (List.mem_cons_of_mem _ hd)

theorem Unbroken.feed_not_mem {cs : List Char} (h : Unbroken cs) : '\n' ∉ cs :=
  fun hmem => absurd (h _ hmem) (by decide)

theorem isBlank_of_isLineEnd {c : Char} (h : isLineEnd c = true) : isBlank c = true := by
  simp only [isLineEnd, Bool.or_eq_true, decide_eq_true_eq] at h
  rcases h with rfl | rfl <;> decide

theorem isBlank_of_isIndent {c : Char} (h : isIndent c = true) : isBlank c = true := by
  simp only [isIndent, Bool.or_eq_true, decide_eq_true_eq] at h
  rcases h with rfl | rfl <;> decide

theorem not_isSeparator_of_isBlank {c : Char} (h : isBlank c = true) :
    Line.isSeparator c = false := by
  cases hs : Line.isSeparator c with
  | false => rfl
  | true =>
      simp only [Line.isSeparator, Bool.or_eq_true, decide_eq_true_eq] at hs
      rcases hs with rfl | rfl <;> exact absurd h (by decide)

theorem ne_mark_of_isBlank {c : Char} (h : isBlank c = true) : c ≠ '[' ∧ c ≠ ';' ∧ c ≠ '#' := by
  refine ⟨?_, ?_, ?_⟩ <;> rintro rfl <;> exact absurd h (by decide)

theorem isLineEnd_of_isIndent {c : Char} (h : isIndent c = true) : isLineEnd c = false := by
  simp only [isIndent, Bool.or_eq_true, decide_eq_true_eq] at h
  rcases h with rfl | rfl <;> decide

theorem isIndent_of_not_isBlank {c : Char} (h : isBlank c = false) : isIndent c = false := by
  cases hi : isIndent c with
  | false => rfl
  | true => rw [isBlank_of_isIndent hi] at h; cases h

theorem isLineEnd_of_not_isBlank {c : Char} (h : isBlank c = false) : isLineEnd c = false := by
  cases he : isLineEnd c with
  | false => rfl
  | true => rw [isBlank_of_isLineEnd he] at h; cases h

@[simp] theorem next_feed_column (p : Place) : (p.next '\n').column = 0 := by
  simp [Place.next]

theorem next_column {c : Char} (h : isLineEnd c = false) (p : Place) :
    (p.next c).column = p.column + 1 := by
  have hne : c ≠ '\n' := by
    rintro rfl
    exact absurd h (by decide)
  simp [Place.next, hne]

/-- Each backslash of a text has a character after it, which it keeps from ending anything. -/
def paired : List Char → Bool
  | [] => true
  | ['\\'] => false
  | '\\' :: _ :: cs => paired cs
  | _ :: cs => paired cs

theorem paired_cons {c : Char} (hc : c ≠ '\\') (cs : List Char) :
    paired (c :: cs) = paired cs := by
  rw [paired.eq_4 _ _ (by simp [hc]) (by simp [hc])]

theorem paired_of_getLast? {cs : List Char} (h : cs.getLast? ≠ some '\\') :
    paired cs = true := by
  fun_induction paired cs with
  | case1 => rfl
  | case2 => simp at h
  | case3 c cs ih =>
      refine ih ?_
      cases cs with
      | nil => simp
      | cons d ds => simpa [List.getLast?_cons_cons] using h
  | case4 c cs _ _ ih =>
      refine ih ?_
      cases cs with
      | nil => simp
      | cons d ds => simpa [List.getLast?_cons_cons] using h

theorem paired_trimStart {cs : List Char} (h : paired cs = true) :
    paired (trimStart cs) = true := by
  induction cs with
  | nil => exact h
  | cons c cs ih =>
      rw [trimStart, List.dropWhile_cons]
      split
      · next hc =>
        have hne : c ≠ '\\' := by
          rintro rfl
          exact absurd hc (by decide)
        rw [paired_cons hne] at h
        exact ih h
      · exact h

/-- A piece is read up to the first character that stops it, unless a backslash takes that
along. It may go over line ends if there are no backslashes to join the lines. -/
theorem piece_append (stop : Char → Bool) (xs rest : List Char)
    (hxs : ∀ c ∈ xs, stop c = false) (hjoin : '\\' ∉ xs ∨ '\n' ∉ xs) (hpaired : paired xs = true)
    (hrest : ∀ c, rest.head? = some c → stop c = true ∧ c ≠ '\\') (p : Place) :
    ∃ q, piece stop p (xs ++ rest) = ⟨xs, q, rest⟩ := by
  fun_induction piece stop p xs with
  | case1 p =>
      cases rest with
      | nil => exact ⟨p, rfl⟩
      | cons c cs =>
          obtain ⟨hc, hne⟩ := hrest c rfl
          exact ⟨p, by rw [List.nil_append, piece.eq_4 _ _ _ _ (by simp_all) (by simp_all),
            if_pos hc]⟩
  | case2 p cs _ => simp at hjoin
  | case3 p c cs hc ih =>
      obtain ⟨q, hq⟩ := ih (fun d hd => hxs d (by simp [hd])) (by simp at hjoin ⊢; tauto) hpaired
      exact ⟨q, by rw [List.cons_append, List.cons_append, piece.eq_3 _ _ _ _ hc, hq]; rfl⟩
  | case4 p c cs _ _ hstop =>
      rw [hxs c (by simp)] at hstop
      cases hstop
  | case5 p c cs hc hc' hstop ih =>
      have hne : c ≠ '\\' := by
        rintro rfl
        cases cs with
        | nil => cases hpaired
        | cons d ds => exact hc' d ds rfl rfl
      rw [paired_cons hne] at hpaired
      obtain ⟨q, hq⟩ := ih (fun d hd => hxs d (by simp [hd])) (by simp at hjoin ⊢; tauto) hpaired
      refine ⟨q, ?_⟩
      rw [List.cons_append, piece.eq_4 _ _ _ _ (by simp_all) (by simp_all), if_neg hstop, hq]
      rfl

theorem skipWhile_append (skip : Char → Bool) (xs rest : List Char)
    (hxs : ∀ c ∈ xs, skip c = true) (hrest : ∀ c, rest.head? = some c → skip c = false)
    (p : Place) : ∃ q, skipWhile skip p (xs ++ rest) = ⟨q, rest⟩ := by
  induction xs generalizing p with
  | nil =>
      cases rest with
      | nil => exact ⟨p, rfl⟩
      | cons c cs => exact ⟨p, by simp [skipWhile, hrest c rfl]⟩
  | cons x xs ih =>
      obtain ⟨q, hq⟩ := ih (fun c hc => hxs c (List.mem_cons_of_mem _ hc)) (p.next x)
      exact ⟨q, by rw [List.cons_append, skipWhile, if_pos (hxs x (List.mem_cons_self ..)), hq]⟩

/-- An indent in front of some character ends where that of the blanks before it ends. -/
theorem skipWhile_dropWhile {c : Char} (hc : isIndent c = false) (bs rest : List Char)
    (p : Place) :
    ∃ q, skipWhile isIndent p (bs ++ c :: rest) = ⟨q, bs.dropWhile isIndent ++ c :: rest⟩ := by
  induction bs generalizing p with
  | nil => exact ⟨p, by simp [skipWhile, hc]⟩
  | cons b bs ih =>
      rw [List.cons_append, skipWhile, List.dropWhile_cons]
      split
      · exact ih (p.next b)
      · exact ⟨p, rfl⟩

theorem skipLine_feed {xs : List Char} (hxs : '\n' ∉ xs) (cs : List Char) (p : Place) :
    ∃ q, q.column = 0 ∧ skipLine p (xs ++ '\n' :: cs) = ⟨q, cs⟩ := by
  induction xs generalizing p with
  | nil => exact ⟨p.next '\n', next_feed_column p, by simp [skipLine]⟩
  | cons x xs ih =>
      simp only [List.mem_cons, not_or] at hxs
      obtain ⟨q, hcol, hq⟩ := ih hxs.2 (p.next x)
      exact ⟨q, hcol, by rw [List.cons_append, skipLine, if_neg (fun h => hxs.1 h.symm), hq]⟩

theorem skipLine_end {xs : List Char} (hxs : '\n' ∉ xs) (p : Place) :
    ∃ q, skipLine p xs = ⟨q, []⟩ := by
  induction xs generalizing p with
  | nil => exact ⟨p, rfl⟩
  | cons x xs ih =>
      simp only [List.mem_cons, not_or] at hxs
      obtain ⟨q, hq⟩ := ih hxs.2 (p.next x)
      exact ⟨q, by rw [skipLine, if_neg (fun h => hxs.1 h.symm), hq]⟩

/-! ## Between two lines -/

theorem skipBetween_blank {b : Char} (hb : isBlank b = true) (hu : isLineEnd b = false)
    (cs : List Char) (p : Place) : skipBetween p (b :: cs) = skipBetween (p.next b) cs := by
  rw [skipBetween.eq_def]
  simp only [hu, hb, Bool.false_eq_true, if_false, if_true]

theorem skipBetween_of_not_isBlank {c : Char} (hc : isBlank c = false) (cs : List Char)
    (p : Place) : skipBetween p (c :: cs) = ⟨p, c :: cs⟩ := by
  rw [skipBetween.eq_def]
  simp only [isLineEnd_of_not_isBlank hc, hc, Bool.false_eq_true, if_false]

theorem skipBetween_lineEnd {e : Char} (he : isLineEnd e = true) (cs : List Char)
    (p : Place) :
    skipBetween p (e :: cs) =
      if cs.head?.any isIndent then ⟨p.next e, cs⟩ else skipBetween (p.next e) cs := by
  rw [skipBetween.eq_def]
  cases cs with
  | nil => simp [he, skipBetween]
  | cons d ds => exact if_pos he

theorem skipBetween_blanks {bs : List Char} (hb : AllBlank bs) (hu : Unbroken bs)
    (rest : List Char) (p : Place) :
    ∃ q, q.column = p.column + bs.length
      ∧ skipBetween p (bs ++ rest) = skipBetween q rest := by
  induction bs generalizing p with
  | nil => exact ⟨p, rfl, rfl⟩
  | cons b bs ih =>
      have hend : isLineEnd b = false := hu b (List.mem_cons_self ..)
      obtain ⟨q, hcol, hq⟩ := ih hb.tail hu.of_cons (p.next b)
      refine ⟨q, ?_, ?_⟩
      · rw [hcol, next_column hend, List.length_cons]
        omega
      · rw [List.cons_append, skipBetween_blank (hb b (List.mem_cons_self ..)) hend, hq]

/-! ## Items of a line -/

def itemsOf (lines : List (List Char)) : List Item :=
  lines.filterMap Line.item?

theorem itemsOf_append (lines more : List (List Char)) :
    itemsOf (lines ++ more) = itemsOf lines ++ itemsOf more :=
  List.filterMap_append

/-- What reading comes to: items, or a fault. -/
abbrev Outcome : Type :=
  Except Fault (List Item)

/-- Outcomes with items in front of what is found. -/
def outcomesAfter (items : List Item) (outcomes : Set Outcome) : Set Outcome :=
  Except.map (items ++ ·) '' outcomes

variable {outcomes : Set Outcome}

@[simp] theorem outcomesAfter_nil : outcomesAfter [] outcomes = outcomes := by
  have hid : (Except.map ([] ++ ·) : Outcome → Outcome) = id := by
    funext o
    cases o <;> rfl
  rw [outcomesAfter, hid, Set.image_id]

theorem outcomesAfter_append (xs ys : List Item) :
    outcomesAfter (xs ++ ys) outcomes = outcomesAfter xs (outcomesAfter ys outcomes) := by
  have hmap (o : Outcome) : o.map (xs ++ ys ++ ·) = (o.map (ys ++ ·)).map (xs ++ ·) := by
    cases o <;> simp [Except.map]
  simp only [outcomesAfter, Set.image_image, hmap]

@[simp] theorem outcomesAfter_ok (xs ys : List Item) :
    outcomesAfter xs {.ok ys} = {.ok (xs ++ ys)} := by
  rw [outcomesAfter, Set.image_singleton]
  rfl

/-- From a point on reading comes to one of these outcomes. -/
def Reads (at_ : Cursor) (outcomes : Set Outcome) : Prop :=
  itemsFrom at_.place at_.rest ∈ outcomes

/-- After a line, wherever that ended, reading comes to one of these outcomes. -/
def Resumes (tail : List Char) (outcomes : Set Outcome) : Prop :=
  ∀ p, Reads (skipBetween p tail) outcomes

theorem reads_nil (h : .ok [] ∈ outcomes) (p : Place) : Reads ⟨p, []⟩ outcomes := by
  rw [Reads, itemsFrom]
  exact h

theorem reads_of_step {p : Place} {c : Char} {cs : List Char} {s : Step}
    (hs : step p c cs = .ok s) (h : Reads s.after outcomes) :
    Reads ⟨p, c :: cs⟩ (outcomesAfter s.item?.toList outcomes) := by
  rw [Reads] at h ⊢
  rw [itemsFrom]
  split
  · next f hf => rw [hs] at hf; cases hf
  · next t ht =>
    rw [hs] at ht
    cases ht
    exact Set.mem_image_of_mem _ h

/-- A step that finds nothing. -/
theorem reads_of_passing {p : Place} {c : Char} {cs : List Char} {q : Cursor}
    (hs : step p c cs = .ok ⟨none, q⟩) (h : Reads q outcomes) :
    Reads ⟨p, c :: cs⟩ outcomes := by
  simpa using reads_of_step hs h

/-- A step finds an item, and from where it ended reading comes to one of these outcomes. -/
def Finds (result : Except Fault Step) (item : Item) (outcomes : Set Outcome) : Prop :=
  ∃ s, result = .ok s ∧ s.item? = some item ∧ Reads s.after outcomes

theorem Finds.reads {p : Place} {c : Char} {cs : List Char} {item : Item}
    (h : Finds (step p c cs) item outcomes) :
    Reads ⟨p, c :: cs⟩ (outcomesAfter [item] outcomes) := by
  obtain ⟨s, hs, hitem, hreads⟩ := h
  have hreads := reads_of_step hs hreads
  rwa [hitem] at hreads

theorem header_finds {name after tail : List Char}
    (hname : ∀ c ∈ name, c ≠ ']' ∧ c ≠ '\\') (hfeed : '\n' ∉ name)
    (htrim : trim name = name) (hafter : AllBlank after) (hu : Unbroken after)
    (htail : Resumes tail outcomes) (p : Place) :
    Finds ((header p (name ++ ']' :: (after ++ tail))).map Step.settle)
      (.header (String.ofList name)) outcomes := by
  obtain ⟨q, hq⟩ := piece_append Closing.bracket.ends name (']' :: (after ++ tail))
    (fun c hc => by simpa [Closing.ends] using (hname c hc).1) (.inr hfeed)
    (paired_of_getLast? fun h => (hname _ (List.mem_of_getLast? h)).2 rfl)
    (fun c hc => by obtain rfl := Option.some.inj hc; decide) p
  obtain ⟨q', -, hq'⟩ := skipBetween_blanks hafter hu tail (q.next ']')
  refine ⟨_, by rw [header, hq]; rfl, by simp [Step.settle, htrim], ?_⟩
  simp only [Step.settle, hq']
  exact htail q'

theorem keyed_finds (key : List Char) {text tail : List Char} {separator : Char}
    (hkey : ∀ c ∈ key, Line.isSeparator c = false ∧ c ≠ '\\')
    (hblank : ¬AllBlank key) (hseparator : Line.isSeparator separator = true)
    (htext : paired text = true) (hu : Unbroken text)
    (hend : ∀ c, tail.head? = some c → isLineEnd c = true) (htail : Resumes tail outcomes)
    (p : Place) :
    Finds ((keyed p (key ++ separator :: (text ++ tail))).map Step.settle)
      (.entry (String.ofList (trim key)) (String.ofList (trim text))) outcomes := by
  have hne : (trim key).isEmpty = false := by
    rw [List.isEmpty_eq_false_iff]
    exact fun h => hblank (trim_eq_nil_iff.mp h)
  have hsep : separator ≠ '\\' := by rintro rfl; exact absurd hseparator (by decide)
  obtain ⟨q, hq⟩ := piece_append Closing.separator.ends key
    (separator :: (text ++ tail)) (fun c hc => (hkey c hc).1)
    (.inl fun h => (hkey _ h).2 rfl)
    (paired_of_getLast? fun h => (hkey _ (List.mem_of_getLast? h)).2 rfl)
    (fun c hc => by obtain rfl := Option.some.inj hc; exact ⟨hseparator, hsep⟩) p
  -- the value starts at the first character of the text that is not blank
  obtain ⟨q₁, hq₁⟩ := skipWhile_append (fun c => isBlank c && !isLineEnd c)
    (text.takeWhile isBlank) (trimStart text ++ tail)
    (fun c hc => by
      simp [List.mem_takeWhile_imp hc, hu c ((List.takeWhile_sublist _).mem hc)])
    (fun c hc => by
      cases hs : trimStart text with
      | nil => rw [hs] at hc; simp [hend c hc]
      | cons d ds =>
          rw [hs] at hc
          obtain rfl := Option.some.inj hc
          simp [isBlank_of_trimStart hs]) (q.next separator)
  have hstart : text.takeWhile isBlank ++ (trimStart text ++ tail) = text ++ tail := by
    rw [← List.append_assoc, trimStart, List.takeWhile_append_dropWhile]
  have hustart : Unbroken (trimStart text) := fun c hc => hu c ((List.dropWhile_sublist _).mem hc)
  obtain ⟨q₂, hq₂⟩ := piece_append isLineEnd (trimStart text) tail hustart
    (.inr hustart.feed_not_mem) (paired_trimStart htext)
    (fun c hc => ⟨hend c hc, by rintro rfl; exact absurd (hend _ hc) (by decide)⟩) q₁
  refine ⟨_, by rw [keyed, hq]; simp only [hne]; rfl, ?_, ?_⟩
  · simp only [Step.settle, entry, ← hstart, hq₁, hq₂, trim_trimStart]
  · simp only [Step.settle, entry, ← hstart, hq₁, hq₂]
    exact htail q₂

/-- A key, a separator and a text up to the end of a line. The key may go over several lines. -/
structure Assigns (first separator : Char) (key text tail : List Char) : Prop where
  blank : isBlank first = false
  noBracket : first ≠ '['
  chars : ∀ c ∈ first :: key, Line.isSeparator c = false ∧ c ≠ '\\'
  separates : Line.isSeparator separator = true
  escape : paired text = true
  unbroken : Unbroken text
  ends : ∀ c, tail.head? = some c → isLineEnd c = true

/-! ## Steps at the start of a line -/

theorem step_comment {p : Place} (hp : p.column = 0) {mark : Char}
    (h : mark = ';' ∨ mark = '#') (cs : List Char) :
    step p mark cs = .ok (Step.settle ⟨none, skipLine (p.next mark) cs⟩) := by
  rw [step, if_pos h, if_pos hp]

theorem step_bracket (p : Place) (cs : List Char) :
    step p '[' cs = (header (p.next '[') cs).map Step.settle := by
  rw [step, if_neg (by decide), if_pos rfl]

theorem step_indent (p : Place) {b : Char} (hb : isIndent b = true) (cs : List Char) :
    step p b cs = indented (skipWhile isIndent (p.next b) cs).place
      (skipWhile isIndent (p.next b) cs).rest := by
  have hne : ¬(b = ';' ∨ b = '#') ∧ b ≠ '[' := by
    simp only [isIndent, Bool.or_eq_true, decide_eq_true_eq] at hb
    rcases hb with rfl | rfl <;> decide
  rw [step, if_neg hne.1, if_neg hne.2, if_pos hb]

theorem step_lineEnd (p : Place) {e : Char} (he : isLineEnd e = true) (cs : List Char) :
    step p e cs = .ok (Step.settle ⟨none, p.next e, cs⟩) := by
  have hne : ¬(e = ';' ∨ e = '#') ∧ e ≠ '[' ∧ ¬isIndent e = true := by
    simp only [isLineEnd, Bool.or_eq_true, decide_eq_true_eq] at he
    rcases he with rfl | rfl <;> decide
  rw [step, if_neg hne.1, if_neg hne.2.1, if_neg hne.2.2, if_pos he]

theorem step_keyed (p : Place) {c : Char} (hc : c ≠ '[' ∧ c ≠ ';' ∧ c ≠ '#')
    (hi : isIndent c = false) (he : isLineEnd c = false) (cs : List Char) :
    step p c cs = (keyed p (c :: cs)).map Step.settle := by
  rw [step, if_neg (by simp [hc.2]), if_neg hc.1, if_neg (by simp [hi]),
    if_neg (by simp [he])]

theorem indented_keyed {p : Place} {c : Char} {cs : List Char} {s : Step} (hc : c ≠ '[')
    (he : isLineEnd c = false) (h : (keyed p (c :: cs)).map Step.settle = .ok s) :
    indented p (c :: cs) = .ok s := by
  cases hk : keyed p (c :: cs) with
  | error f => rw [hk] at h; cases h
  | ok t =>
      rw [hk] at h
      rw [indented.eq_3 _ _ _ (fun h => hc h), if_neg (by simp [he])]
      rw [hk]
      exact h

/-! ## Lines in place -/

section Lines

variable {first separator : Char} {key text tail : List Char}

theorem reads_header {before name after : List Char} (hbefore : ∀ c ∈ before, isIndent c = true)
    (hname : ∀ c ∈ name, c ≠ ']' ∧ c ≠ '\\') (hfeed : '\n' ∉ name)
    (htrim : trim name = name) (hafter : AllBlank after) (hu : Unbroken after)
    (htail : Resumes tail outcomes) (p : Place) :
    Reads ⟨p, before ++ '[' :: (name ++ ']' :: (after ++ tail))⟩
      (outcomesAfter [.header (String.ofList name)] outcomes) := by
  cases before with
  | nil =>
      rw [List.nil_append]
      apply Finds.reads
      rw [step_bracket]
      exact header_finds hname hfeed htrim hafter hu htail _
  | cons b bs =>
      obtain ⟨q, hq⟩ := skipWhile_append isIndent bs
        ('[' :: (name ++ ']' :: (after ++ tail)))
        (fun c hc => hbefore c (List.mem_cons_of_mem _ hc))
        (fun c hc => by obtain rfl := Option.some.inj hc; decide) (p.next b)
      rw [List.cons_append]
      apply Finds.reads
      rw [step_indent p (hbefore b (List.mem_cons_self ..)), hq]
      exact header_finds hname hfeed htrim hafter hu htail _

/-- Blanks in front of a key are read with it. -/
theorem Assigns.keyed (h : Assigns first separator key text tail) {bs : List Char}
    (hbs : AllBlank bs) (htail : Resumes tail outcomes) (p : Place) :
    Finds ((keyed p (bs ++ first :: (key ++ separator :: (text ++ tail)))).map Step.settle)
      (.entry (String.ofList (trim (first :: key))) (String.ofList (trim text))) outcomes := by
  have hbs' : ∀ c ∈ bs, Line.isSeparator c = false ∧ c ≠ '\\' := by
    intro c hc
    refine ⟨not_isSeparator_of_isBlank (hbs c hc), ?_⟩
    rintro rfl
    exact absurd (hbs _ hc) (by decide)
  have hnot : ¬AllBlank (bs ++ first :: key) := fun hall => by
    simpa [h.blank] using hall first (by simp)
  have hfinds := keyed_finds (bs ++ first :: key)
    (fun c hc => (List.mem_append.mp hc).elim (hbs' c) (h.chars c)) hnot h.separates
    h.escape h.unbroken h.ends htail p
  rw [trim_append_blanks hbs] at hfinds
  simpa using hfinds

/-- After an indent too. -/
theorem Assigns.indented (h : Assigns first separator key text tail) {bs : List Char}
    (hbs : AllBlank bs) (hubs : Unbroken bs) (htail : Resumes tail outcomes) (p : Place) :
    Finds (indented p (bs ++ first :: (key ++ separator :: (text ++ tail))))
      (.entry (String.ofList (trim (first :: key))) (String.ofList (trim text))) outcomes := by
  obtain ⟨s, hs, hfound⟩ := h.keyed hbs htail p
  refine ⟨s, ?_, hfound⟩
  cases bs with
  | nil => exact indented_keyed h.noBracket (isLineEnd_of_not_isBlank h.blank) hs
  | cons b bs =>
      exact indented_keyed (ne_mark_of_isBlank (hbs b (List.mem_cons_self ..))).1
        (hubs b (List.mem_cons_self ..)) hs

/-- A comment mark may be part of a key after blanks. -/
theorem reads_entry {before : List Char} (h : Assigns first separator key text tail)
    (hbefore : AllBlank before) (hub : Unbroken before)
    (hmark : before = [] → first ≠ ';' ∧ first ≠ '#') (htail : Resumes tail outcomes)
    (p : Place) :
    Reads ⟨p, before ++ first :: (key ++ separator :: (text ++ tail))⟩
      (outcomesAfter [.entry (String.ofList (trim (first :: key))) (String.ofList (trim text))]
        outcomes) := by
  have hindent : isIndent first = false := isIndent_of_not_isBlank h.blank
  cases before with
  | nil =>
      rw [List.nil_append]
      apply Finds.reads
      rw [step_keyed p ⟨h.noBracket, hmark rfl⟩ hindent (isLineEnd_of_not_isBlank h.blank)]
      exact h.keyed hbefore htail p
  | cons b bs =>
      rw [List.cons_append]
      apply Finds.reads
      cases hb : isIndent b with
      | false =>
          have hstart := ne_mark_of_isBlank (hbefore b (List.mem_cons_self ..))
          rw [step_keyed p hstart hb (hub b (List.mem_cons_self ..))]
          exact h.keyed hbefore htail p
      | true =>
          have hsub : ∀ c ∈ bs.dropWhile isIndent, c ∈ bs :=
            fun c hc => (List.dropWhile_sublist _).mem hc
          obtain ⟨q, hq⟩ := skipWhile_dropWhile hindent bs
            (key ++ separator :: (text ++ tail)) (p.next b)
          rw [step_indent p hb, hq]
          exact h.indented (fun c hc => hbefore.tail c (hsub c hc))
            (fun c hc => hub.of_cons c (hsub c hc)) htail q

/-- A comment, with the point after it, where blanks are skipped. -/
theorem reads_comment {mark : Char} {text : List Char} (hmark : mark = ';' ∨ mark = '#')
    (hfeed : '\n' ∉ text) {p : Place} (hp : p.column = 0) {rest : List Char}
    (hrest : ∀ q, q.column = 0 → Reads (skipBetween q rest) outcomes) :
    Reads ⟨p, mark :: (text ++ '\n' :: rest)⟩ outcomes := by
  obtain ⟨q, hcol, hq⟩ := skipLine_feed hfeed rest (p.next mark)
  refine reads_of_passing (step_comment hp hmark _) ?_
  simp only [hq]
  exact hrest q hcol

theorem reads_lineEnd {e : Char} (he : isLineEnd e = true) {cs : List Char} {p : Place}
    (h : Reads (skipBetween (p.next e) cs) outcomes) : Reads ⟨p, e :: cs⟩ outcomes :=
  reads_of_passing (step_lineEnd p he cs) h

end Lines

/-! ## All lines -/

/-- At the start of a line reading comes to one of these outcomes, if the blanks in front of
the lines from there on can be read. With the blanks there being skipped it does so too, and
then more blanks can be read. -/
def ReadableAt (lines : List (List Char)) (outcomes : Set Outcome) (p : Place)
    (cs : List Char) : Prop :=
  (leadsReadable false lines = true → Reads ⟨p, cs⟩ outcomes)
    ∧ (leadsReadable true lines = true → Reads (skipBetween p cs) outcomes)

/-- Reading comes to one of these outcomes, wherever these are the lines of a text. -/
structure Readable (lines : List (List Char)) (outcomes : Set Outcome) : Prop where
  nothing : lines = [] → .ok [] ∈ outcomes
  start : ∀ cs p, linesOf cs = lines → p.column = 0 → ReadableAt lines outcomes p cs

theorem readable_nil (h : .ok [] ∈ outcomes) : Readable [] outcomes where
  nothing _ := h
  start cs _ hlines := absurd hlines (linesOf_ne_nil cs)

theorem Follows.lineEnd {tail : List Char} {more : List (List Char)} (h : Follows tail more) :
    ∀ c, tail.head? = some c → isLineEnd c = true := by
  intro c hc
  cases h with
  | nothing => cases hc
  | feed cs => obtain rfl := Option.some.inj hc; decide
  | returnFeed cs => obtain rfl := Option.some.inj hc; decide

theorem isEntry_or_hasPlainLead {line : List Char} {more : List (List Char)}
    (h : leadsReadable false (line :: more) = true) :
    Line.isEntry line = true ∨ Line.hasPlainLead line = true := by
  simpa [leadsReadable] using (Bool.and_eq_true_iff.mp h).1

theorem leadsReadable_of_indent {cs : List Char} (h : leadsReadable true (linesOf cs) = true)
    (hi : cs.head?.any isIndent = true) : leadsReadable false (linesOf cs) = true := by
  cases hl : linesOf cs with
  | nil => rfl
  | cons line more =>
      obtain ⟨tail, rfl, htail⟩ := linesOf_split hl
      have hhead : line.head?.any isIndent = true := by
        cases line with
        | nil =>
            cases tail with
            | nil => simp at hi
            | cons c cs =>
                have hend := htail.lineEnd c rfl
                rw [isLineEnd_of_isIndent (by simpa using hi)] at hend
                cases hend
        | cons c cs => simpa using hi
      rw [hl] at h
      simp only [leadsReadable, hhead, Bool.not_true, Bool.and_false, Bool.or_false] at h ⊢
      simpa using h

/-- Wherever a line ended, the reader goes on to the next one. -/
theorem Readable.resumes {tail : List Char} {more : List (List Char)}
    (h : Readable more outcomes) (htail : Follows tail more)
    (hlead : leadsReadable true more = true) : Resumes tail outcomes := by
  -- the line feed itself; a carriage return in front is passed over
  have hfeed : ∀ cs, more = linesOf cs → ∀ p, Reads (skipBetween p ('\n' :: cs)) outcomes := by
    rintro cs rfl p
    rw [skipBetween_lineEnd (by decide)]
    split
    · next hi =>
      exact (h.start cs _ rfl (next_feed_column p)).1 (leadsReadable_of_indent hlead hi)
    · exact (h.start cs _ rfl (next_feed_column p)).2 hlead
  intro p
  cases htail with
  | nothing => exact reads_nil (h.nothing rfl) p
  | feed cs => exact hfeed cs rfl p
  | returnFeed cs =>
      rw [skipBetween_lineEnd (by decide), if_neg (by simp [isIndent])]
      exact hfeed cs rfl _

/-- Spaces and tabs alone on a line are passed over, with the end of the line. -/
theorem reads_indentOnly {line tail : List Char} {more : List (List Char)}
    (hline : ∀ c ∈ line, isIndent c = true) (h : Readable more outcomes)
    (htail : Follows tail more)
    (hlead : leadsReadable (!Line.isIndentOnly line) more = true) (p : Place) :
    Reads ⟨p, line ++ tail⟩ outcomes := by
  have hsettled : leadsReadable true more = true := leadsReadable_settled hlead
  cases line with
  | nil =>
      cases htail with
      | nothing => exact reads_nil (h.nothing rfl) p
      | feed cs =>
          exact reads_lineEnd (by decide) ((h.start cs _ rfl (next_feed_column p)).2 hsettled)
      | returnFeed cs =>
          exact reads_lineEnd (by decide) (h.resumes (.feed cs) hsettled _)
  | cons b bs =>
      have hlead' : leadsReadable false more = true := by
        have honly : Line.isIndentOnly (b :: bs) = true := by
          simpa [Line.isIndentOnly] using hline
        rwa [honly] at hlead
      obtain ⟨q, hq⟩ := skipWhile_append isIndent bs tail
        (fun c hc => hline c (List.mem_cons_of_mem _ hc))
        (fun c hc => by
          have hend := htail.lineEnd c hc
          cases hi : isIndent c with
          | false => rfl
          | true => rw [isLineEnd_of_isIndent hi] at hend; cases hend) (p.next b)
      have hstep := step_indent p (hline b (List.mem_cons_self ..)) (bs ++ tail)
      rw [hq] at hstep
      cases htail with
      | nothing => exact reads_of_passing (hstep.trans rfl) (reads_nil (h.nothing rfl) _)
      | feed cs =>
          exact reads_of_passing (hstep.trans rfl)
            ((h.start cs _ rfl (next_feed_column q)).1 hlead')
      | returnFeed cs =>
          exact reads_of_passing (hstep.trans rfl) (reads_lineEnd (by decide)
            ((h.start cs _ rfl (next_feed_column _)).2 hsettled))

theorem all_isIndent_of_hasPlainLead {before : List Char} (hbefore : AllBlank before)
    {rest : List Char} (hrest : ∀ c, rest.head? = some c → isBlank c = false)
    (h : Line.hasPlainLead (before ++ rest) = true) : ∀ c ∈ before, isIndent c = true := by
  have htake : (before ++ rest).takeWhile isBlank = before := by
    rw [List.takeWhile_append_of_pos hbefore]
    cases rest with
    | nil => simp
    | cons c cs => simp [hrest c rfl]
  rw [Line.hasPlainLead, htake] at h
  simpa using h

/-- An entry is read the same with the blanks in front of it being skipped. -/
theorem Assigns.reads {before key text tail : List Char} {first separator : Char}
    (h : Assigns first separator key text tail) (hmark : first ≠ ';' ∧ first ≠ '#')
    (hbefore : AllBlank before) (hub : Unbroken before) (htail : Resumes tail outcomes)
    (p : Place) :
    Reads ⟨p, before ++ first :: (key ++ separator :: (text ++ tail))⟩
        (outcomesAfter [.entry (String.ofList (trim (first :: key))) (String.ofList (trim text))]
          outcomes)
      ∧ Reads (skipBetween p (before ++ first :: (key ++ separator :: (text ++ tail))))
        (outcomesAfter [.entry (String.ofList (trim (first :: key))) (String.ofList (trim text))]
          outcomes) := by
  refine ⟨reads_entry h hbefore hub (fun _ => hmark) htail p, ?_⟩
  obtain ⟨q, -, hq⟩ := skipBetween_blanks hbefore hub
    (first :: (key ++ separator :: (text ++ tail))) p
  rw [hq, skipBetween_of_not_isBlank h.blank]
  exact reads_entry h (show AllBlank [] by simp [AllBlank]) (by simp [Unbroken]) (fun _ => hmark)
    htail q

section Line

variable {line tail : List Char} {more : List (List Char)}

theorem Readable.resumes_of_cons (h : Readable more outcomes) (htail : Follows tail more)
    {settled : Bool} (hlead : leadsReadable settled (line :: more) = true) :
    Resumes tail outcomes :=
  h.resumes htail (leadsReadable_settled (Bool.and_eq_true_iff.mp hlead).2)

theorem readableAt_blank (hblank : AllBlank line) (hu : Unbroken line)
    (h : Readable more outcomes) (htail : Follows tail more) (p : Place) :
    ReadableAt (line :: more) (outcomesAfter (Line.item? line).toList outcomes) p
      (line ++ tail) := by
  rw [ReadableAt, Line.item?_blank hblank, Option.toList_none, outcomesAfter_nil]
  constructor
  · intro hlead
    have hplain : Line.hasPlainLead (line ++ []) = true := by
      simpa [Line.isEntry, Line.item?_blank hblank] using isEntry_or_hasPlainLead hlead
    exact reads_indentOnly (all_isIndent_of_hasPlainLead hblank (by simp) hplain) h htail
      (Bool.and_eq_true_iff.mp hlead).2 p
  · intro hlead
    obtain ⟨q, -, hq⟩ := skipBetween_blanks hblank hu tail p
    rw [hq]
    exact h.resumes_of_cons htail hlead q

theorem readableAt_comment {mark : Char} {text : List Char} (hmark : mark = ';' ∨ mark = '#')
    (hu : Unbroken (mark :: text)) (h : Readable more outcomes) (htail : Follows tail more)
    {p : Place} (hp : p.column = 0) :
    ReadableAt ((mark :: text) :: more)
      (outcomesAfter (Line.item? (mark :: text)).toList outcomes) p (mark :: text ++ tail) := by
  have hreads : leadsReadable true ((mark :: text) :: more) = true →
      Reads ⟨p, mark :: (text ++ tail)⟩ outcomes := by
    intro hlead
    have hsettled := leadsReadable_settled (Bool.and_eq_true_iff.mp hlead).2
    have hfeed : '\n' ∉ text := hu.of_cons.feed_not_mem
    cases htail with
    | nothing =>
        obtain ⟨q, hq⟩ := skipLine_end hfeed (p.next mark)
        refine reads_of_passing (step_comment hp hmark _) ?_
        simp only [List.append_nil, hq]
        exact reads_nil (h.nothing rfl) q
    | feed cs =>
        exact reads_comment hmark hfeed hp fun q hcol => (h.start cs q rfl hcol).2 hsettled
    | returnFeed cs =>
        have hreturn : '\n' ∉ text ++ ['\r'] := by simpa using hfeed
        have hreads := reads_comment hmark hreturn hp fun q hcol =>
          (h.start cs q rfl hcol).2 hsettled
        simpa using hreads
  have hblank : isBlank mark = false := by rcases hmark with rfl | rfl <;> decide
  rw [ReadableAt, Line.item?_comment hmark, Option.toList_none, outcomesAfter_nil,
    List.cons_append, skipBetween_of_not_isBlank hblank]
  exact ⟨fun hlead => hreads (leadsReadable_settled hlead), hreads⟩

theorem readableAt_header {before name after : List Char} (hbefore : AllBlank before)
    (hname : ∀ c ∈ name, c ≠ ']' ∧ c ≠ '\\') (htrim : trim name = name)
    (hafter : AllBlank after) (hu : Unbroken (before ++ '[' :: (name ++ ']' :: after)))
    (h : Readable more outcomes) (htail : Follows tail more) (p : Place) :
    ReadableAt ((before ++ '[' :: (name ++ ']' :: after)) :: more)
      (outcomesAfter (Line.item? (before ++ '[' :: (name ++ ']' :: after))).toList outcomes) p
      (before ++ '[' :: (name ++ ']' :: after) ++ tail) := by
  have hrest := hu.of_append_right.of_cons
  have hreads : Resumes tail outcomes → ∀ bs, (∀ c ∈ bs, isIndent c = true) → ∀ q,
      Reads ⟨q, bs ++ '[' :: (name ++ ']' :: (after ++ tail))⟩
        (outcomesAfter [.header (String.ofList name)] outcomes) :=
    fun hresumes bs hbs q => reads_header hbs hname hrest.of_append_left.feed_not_mem
      htrim hafter hrest.of_append_right.of_cons hresumes q
  have hline : before ++ '[' :: (name ++ ']' :: after) ++ tail =
      before ++ '[' :: (name ++ ']' :: (after ++ tail)) := by simp
  rw [ReadableAt, Line.item?_header hbefore hname, Option.toList_some, hline]
  constructor
  · intro hlead
    have hplain : Line.hasPlainLead (before ++ '[' :: (name ++ ']' :: after)) = true := by
      simpa [Line.isEntry, Line.item?_header hbefore hname] using
        isEntry_or_hasPlainLead hlead
    refine hreads (h.resumes_of_cons htail hlead) before
      (all_isIndent_of_hasPlainLead hbefore (fun c hc => ?_) hplain) p
    obtain rfl := Option.some.inj hc
    decide
  · intro hlead
    obtain ⟨q, -, hq⟩ := skipBetween_blanks hbefore hu.of_append_left
      ('[' :: (name ++ ']' :: (after ++ tail))) p
    rw [hq, skipBetween_of_not_isBlank (by decide)]
    exact hreads (h.resumes_of_cons htail hlead) [] (by simp) q

theorem readableAt_entry {before key text : List Char} {first separator : Char}
    (hbefore : AllBlank before) (hblank : isBlank first = false)
    (hfirst : first ≠ '[' ∧ first ≠ ';' ∧ first ≠ '#')
    (hkey : ∀ c ∈ first :: key, Line.isSeparator c = false ∧ c ≠ '\\')
    (hseparator : Line.isSeparator separator = true) (htext : paired text = true)
    (hu : Unbroken (before ++ first :: (key ++ separator :: text)))
    (h : Readable more outcomes) (htail : Follows tail more) (p : Place) :
    ReadableAt ((before ++ first :: (key ++ separator :: text)) :: more)
      (outcomesAfter (Line.item? (before ++ first :: (key ++ separator :: text))).toList outcomes)
      p (before ++ first :: (key ++ separator :: text) ++ tail) := by
  have hassigns : Assigns first separator key text tail :=
    { blank := hblank
      noBracket := hfirst.1
      chars := hkey
      separates := hseparator
      escape := htext
      unbroken := hu.of_append_right.of_cons.of_append_right.of_cons
      ends := htail.lineEnd }
  have hline : before ++ first :: (key ++ separator :: text) ++ tail =
      before ++ first :: (key ++ separator :: (text ++ tail)) := by simp
  rw [ReadableAt, Line.item?_entry hbefore hblank hfirst hkey hseparator, Option.toList_some,
    hline]
  have hreads (hresumes : Resumes tail outcomes) :=
    hassigns.reads hfirst.2 hbefore hu.of_append_left hresumes p
  exact ⟨fun hlead => (hreads (h.resumes_of_cons htail hlead)).1,
    fun hlead => (hreads (h.resumes_of_cons htail hlead)).2⟩

end Line

/-- The lines that are read as they stand: the regular ones, and the entries whose
backslashes stand in pairs. -/
inductive Line.Whole : List Char → Prop where
  | regular {line : List Char} (h : Line.Regular line) : Whole line
  | entry {before key text : List Char} {first separator : Char}
      (hbefore : AllBlank before) (hblank : isBlank first = false)
      (hfirst : first ≠ '[' ∧ first ≠ ';' ∧ first ≠ '#')
      (hkey : ∀ c ∈ first :: key, Line.isSeparator c = false ∧ c ≠ '\\')
      (hseparator : Line.isSeparator separator = true) (htext : paired text = true) :
      Whole (before ++ first :: (key ++ separator :: text))

/-- **The reader agrees with the lines.** One case per kind of line. -/
theorem Readable.cons {line : List Char} {more : List (List Char)} (hwhole : Line.Whole line)
    (hu : Unbroken line) (h : Readable more outcomes) :
    Readable (line :: more) (outcomesAfter (Line.item? line).toList outcomes) where
  nothing hnil := by cases hnil
  start cs p hcs hp := by
    obtain ⟨tail, rfl, htail⟩ := linesOf_split hcs
    cases hwhole with
    | regular hregular =>
        cases hregular with
        | blank hblank => exact readableAt_blank hblank hu h htail p
        | comment hmark => exact readableAt_comment hmark hu h htail hp
        | header hbefore hname htrim hafter =>
            exact readableAt_header hbefore hname htrim hafter hu h htail p
        | entry hbefore hblank hfirst hkey hseparator htext =>
            exact readableAt_entry hbefore hblank hfirst hkey hseparator
              (paired_of_getLast? htext) hu h htail p
    | entry hbefore hblank hfirst hkey hseparator htext =>
        exact readableAt_entry hbefore hblank hfirst hkey hseparator htext hu h htail p

/-- After some lines reading comes to what it comes to without them, with their items in
front. -/
theorem Readable.append {lines others : List (List Char)}
    (hlines : ∀ line ∈ lines, Line.Whole line ∧ Unbroken line) (h : Readable others outcomes) :
    Readable (lines ++ others) (outcomesAfter (itemsOf lines) outcomes) := by
  induction lines with
  | nil => simpa [itemsOf] using h
  | cons line lines ih =>
      obtain ⟨hwhole, hu⟩ := hlines line (List.mem_cons_self ..)
      have hmore := ih fun l hl => hlines l (List.mem_cons_of_mem _ hl)
      have hitems : itemsOf (line :: lines) = (Line.item? line).toList ++ itemsOf lines := by
        cases hitem : Line.item? line <;> simp [itemsOf, hitem]
      rw [hitems, outcomesAfter_append]
      exact hmore.cons hwhole hu

theorem readable_of_whole {lines : List (List Char)}
    (hlines : ∀ line ∈ lines, Line.Whole line ∧ Unbroken line) :
    Readable lines {.ok (itemsOf lines)} := by
  have hreadable : Readable (lines ++ []) (outcomesAfter (itemsOf lines) {.ok []}) :=
    .append hlines (readable_nil rfl)
  rwa [List.append_nil, outcomesAfter_ok, List.append_nil] at hreadable

theorem Unbroken.of_mem_linesOf {cs line : List Char} (hline : line ∈ linesOf cs)
    (hreturn : '\r' ∉ line) : Unbroken line := by
  intro c hc
  have hfeed : c ≠ '\n' := fun h => feed_not_mem_line hline (h ▸ hc)
  have hne : c ≠ '\r' := fun h => hreturn (h ▸ hc)
  simp [isLineEnd, hfeed, hne]

/-- Reading a text comes to what reading its lines comes to. -/
theorem Readable.read {content : String} (h : Readable (linesOf content.toList) outcomes)
    (hlead : leadsReadable false (linesOf content.toList) = true) :
    ∃ o ∈ outcomes, read content = o.map KeyFile.mk :=
  ⟨_, (h.start content.toList {} rfl rfl).1 hlead, rfl⟩

/-- The reader finds in a text what its lines say. -/
theorem read_eq_items_of_whole {content : String}
    (hlines : ∀ line ∈ linesOf content.toList, Line.Whole line ∧ '\r' ∉ line)
    (hlead : leadsReadable false (linesOf content.toList) = true) :
    read content = .ok ⟨itemsOf (linesOf content.toList)⟩ := by
  have hreadable := readable_of_whole fun line hline =>
    ⟨(hlines line hline).1, Unbroken.of_mem_linesOf hline (hlines line hline).2⟩
  obtain ⟨o, ho, hread⟩ := hreadable.read hlead
  rw [hread, Set.mem_singleton_iff.mp ho]
  rfl

theorem read_eq_items {content : String}
    (hlines : ∀ line ∈ linesOf content.toList, Line.Regular line ∧ '\r' ∉ line)
    (hlead : leadsReadable false (linesOf content.toList) = true) :
    read content = .ok ⟨itemsOf (linesOf content.toList)⟩ :=
  read_eq_items_of_whole
    (fun line hline => ⟨.regular (hlines line hline).1, (hlines line hline).2⟩) hlead

end GadgetModes.KeyFile
