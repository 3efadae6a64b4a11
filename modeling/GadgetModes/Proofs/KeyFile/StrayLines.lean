import GadgetModes.Proofs.KeyFile.LineReading

/-!
# Lines that say nothing

A line without a separator that is neither blank nor a header nor a comment says nothing
(`Line.Stray`). It is no defect to the reader either, as long as a separator follows on a later
line: the reader takes everything up to there for one key. So the stray line takes other lines
with it, up to the first one with a separator (`lostLines`), and reading goes on with those after
them (`sparedLines`). If there is no such line, the text ends in the middle of a key.

`Strayed.read_cases` lists what the reader makes of a text with a stray line between two lines.
-/

namespace GadgetModes.KeyFile

open GadgetModes.Text

variable {stray line tail : List Char} {lines after : List (List Char)} {outcomes : Set Outcome}

/-! ## Stray lines -/

def Line.hasSeparator (line : List Char) : Bool :=
  line.any isSeparator

/-- Whether a character opens a comment, if it starts a line. -/
def isMark (c : Char) : Bool :=
  c = ';' || c = '#'

/-- Whether there is a comment mark after the blanks in front of a line. -/
def Line.isMarked (line : List Char) : Bool :=
  (trimStart line).head?.any isMark

/-- A line that says nothing: no separator, no backslash, and neither blank nor a header, nor a
comment from its first character on. -/
structure Line.Stray (line : List Char) : Prop where
  notBlank : ¬AllBlank line
  noHeader : (trimStart line).head? ≠ some '['
  noComment : line.head?.any isMark = false
  chars : ∀ c ∈ line, isSeparator c = false ∧ c ≠ '\\'

/-- The lines after a stray one that are lost with it: those up to the first separator. -/
def lostLines (lines : List (List Char)) : List (List Char) :=
  lines.takeWhile (!Line.hasSeparator ·) ++ (lines.dropWhile (!Line.hasSeparator ·)).take 1

def sparedLines (lines : List (List Char)) : List (List Char) :=
  (lines.dropWhile (!Line.hasSeparator ·)).drop 1

theorem lostLines_append_sparedLines (lines : List (List Char)) :
    lostLines lines ++ sparedLines lines = lines := by
  rw [lostLines, sparedLines, List.append_assoc, List.take_append_drop,
    List.takeWhile_append_dropWhile]

theorem leadsReadable_of_append {lines more : List (List Char)}
    (h : leadsReadable true (lines ++ more) = true) : leadsReadable true more = true := by
  induction lines with
  | nil => exact h
  | cons line lines ih =>
      rw [List.cons_append, leadsReadable, Bool.and_eq_true] at h
      exact ih (leadsReadable_settled h.2)

theorem leadsReadable_sparedLines (h : leadsReadable true lines = true) :
    leadsReadable true (sparedLines lines) = true :=
  leadsReadable_of_append ((lostLines_append_sparedLines lines).symm ▸ h)

/-! ## What follows a stray line -/

/-- A regular line on its own, without backslashes. -/
structure Line.Literal (line : List Char) : Prop where
  regular : Line.Regular line
  unbroken : Unbroken line
  noBackslash : '\\' ∉ line

theorem Line.Literal.chars (h : Line.Literal line) (hnone : Line.hasSeparator line = false) :
    ∀ c ∈ line, Line.isSeparator c = false ∧ c ≠ '\\' := by
  intro c hc
  refine ⟨by simpa using List.any_eq_false.mp hnone c hc, ?_⟩
  rintro rfl
  exact h.noBackslash hc

theorem Follows.eq_nil (h : Follows tail []) : tail = [] := by
  generalize hlines : ([] : List (List Char)) = lines at h
  cases h with
  | nothing => rfl
  | feed cs => exact absurd hlines.symm (linesOf_ne_nil cs)
  | returnFeed cs => exact absurd hlines.symm (linesOf_ne_nil cs)

theorem Follows.of_cons {more : List (List Char)} (h : Follows tail (line :: more)) :
    ∃ front rest, tail = front ++ '\n' :: (line ++ rest) ∧ (∀ c ∈ front, c = '\r')
      ∧ Follows rest more := by
  generalize hlines : line :: more = lines at h
  cases h with
  | nothing => cases hlines
  | feed cs =>
      obtain ⟨rest, rfl, hrest⟩ := linesOf_split hlines.symm
      exact ⟨[], rest, rfl, by simp, hrest⟩
  | returnFeed cs =>
      obtain ⟨rest, rfl, hrest⟩ := linesOf_split hlines.symm
      exact ⟨['\r'], rest, rfl, by simp, hrest⟩

theorem Line.Regular.not_isSeparator_head (h : Line.Regular line) {c : Char}
    (hc : (trimStart line).head? = some c) : Line.isSeparator c = false := by
  cases h with
  | blank hblank =>
      have hnil : trimStart line = [] := List.dropWhile_eq_nil_iff.mpr hblank
      simp [hnil] at hc
  | comment hmark =>
      rcases hmark with rfl | rfl
      all_goals
        obtain rfl := Option.some.inj hc
        decide
  | header hbefore =>
      rw [trimStart_append hbefore (by decide)] at hc
      obtain rfl := Option.some.inj hc
      decide
  | entry hbefore hblank _ hkey =>
      rw [trimStart_append hbefore hblank] at hc
      exact Option.some.inj hc ▸ (hkey _ (List.mem_cons_self ..)).1

/-- In front of the first separator of a line there is something. -/
theorem Line.Regular.split (h : Line.Regular line) (hseparator : Line.hasSeparator line = true) :
    ∃ key separator text, line = key ++ separator :: text
      ∧ (∀ c ∈ key, Line.isSeparator c = false) ∧ ¬AllBlank key
      ∧ Line.isSeparator separator = true := by
  have hkey : ∀ c ∈ line.takeWhile (!isSeparator ·), isSeparator c = false := fun c hc => by
    simpa using List.mem_takeWhile_imp hc
  have hsplit := (List.takeWhile_append_dropWhile (p := (!isSeparator ·)) (l := line)).symm
  cases hrest : line.dropWhile (!isSeparator ·) with
  | nil =>
      rw [hrest, List.append_nil] at hsplit
      rw [hasSeparator, hsplit, List.any_eq_true] at hseparator
      obtain ⟨c, hc, hseparator⟩ := hseparator
      rw [hkey c hc] at hseparator
      cases hseparator
  | cons separator text =>
      have hstops := List.head?_dropWhile_not (!isSeparator ·) line
      rw [hrest] at hsplit hstops
      replace hstops : isSeparator separator = true := by simpa using hstops
      refine ⟨_, separator, text, hsplit, hkey, fun hblank => ?_, hstops⟩
      have hnot : isBlank separator = false := by
        cases hb : isBlank separator with
        | false => rfl
        | true => rw [not_isSeparator_of_isBlank hb] at hstops; cases hstops
      have hhead : (trimStart line).head? = some separator := by
        rw [hsplit, trimStart_append hblank hnot]
        rfl
      rw [h.not_isSeparator_head hhead] at hstops
      cases hstops

/-- What stands between a stray line and the first separator after it, and what follows. -/
structure Gap (tail : List Char) (lines : List (List Char)) (first last : List Char)
    (separator : Char) (text rest : List Char) : Prop where
  eq : tail = first ++ '\n' :: (last ++ separator :: (text ++ rest))
  chars : ∀ c ∈ first ++ '\n' :: last, Line.isSeparator c = false ∧ c ≠ '\\'
  notBlank : ¬AllBlank last
  separates : Line.isSeparator separator = true
  unbroken : Unbroken text
  noBackslash : '\\' ∉ text
  follows : Follows rest (sparedLines lines)

theorem exists_gap (h : Follows tail lines) (hlines : ∀ line ∈ lines, Line.Literal line)
    (hsome : lines.any Line.hasSeparator = true) :
    ∃ first last separator text rest, Gap tail lines first last separator text rest := by
  induction lines generalizing tail with
  | nil => cases hsome
  | cons line more ih =>
      obtain ⟨front, rest, rfl, hfront, hrest⟩ := h.of_cons
      have hliteral := hlines line (List.mem_cons_self ..)
      obtain ⟨hregular, hu, hbackslash⟩ := hlines line (List.mem_cons_self ..)
      have hreturn : ∀ c ∈ front, Line.isSeparator c = false ∧ c ≠ '\\' := fun c hc => by
        rw [hfront c hc]
        decide
      by_cases hseparator : Line.hasSeparator line = true
      · obtain ⟨key, separator, text, rfl, hkey, hblank, hstops⟩ := hregular.split hseparator
        refine ⟨front, key, separator, text, rest, ⟨by simp, ?_, hblank, hstops,
          hu.of_append_right.of_cons, fun h => hbackslash (by simp [h]), ?_⟩⟩
        · rw [List.forall_mem_append, List.forall_mem_cons]
          refine ⟨hreturn, by decide, fun c hc => ⟨hkey c hc, ?_⟩⟩
          rintro rfl
          exact hbackslash (by simp [hc])
        · rw [sparedLines, List.dropWhile_cons_of_neg (by simp [hseparator])]
          exact hrest
      · have hmore : more.any Line.hasSeparator = true := by
          simpa [hseparator] using hsome
        obtain ⟨first, last, separator, text, rest', hgap⟩ :=
          ih hrest (fun l hl => hlines l (List.mem_cons_of_mem _ hl)) hmore
        refine ⟨front ++ '\n' :: (line ++ first), last, separator, text, rest',
          { hgap with eq := by simp [hgap.eq], chars := ?_, follows := ?_ }⟩
        · have hline := hliteral.chars (by simpa using hseparator)
          have hgap' := hgap.chars
          simp only [List.forall_mem_append, List.forall_mem_cons] at hgap' ⊢
          exact ⟨⟨hreturn, by decide, hline, hgap'.1⟩, hgap'.2⟩
        · rw [sparedLines, List.dropWhile_cons_of_pos (by simp [hseparator])]
          exact hgap.follows

theorem not_isSeparator_of_follows (h : Follows tail lines)
    (hlines : ∀ line ∈ lines, Line.Literal line)
    (hnone : lines.any Line.hasSeparator = false) :
    ∀ c ∈ tail, Line.isSeparator c = false ∧ c ≠ '\\' := by
  induction lines generalizing tail with
  | nil => simp [h.eq_nil]
  | cons line more ih =>
      obtain ⟨front, rest, rfl, hfront, hrest⟩ := h.of_cons
      rw [List.any_cons, Bool.or_eq_false_iff] at hnone
      have hline := (hlines line (List.mem_cons_self ..)).chars hnone.1
      have hmore := ih hrest (fun l hl => hlines l (List.mem_cons_of_mem _ hl)) hnone.2
      simp only [List.forall_mem_append, List.forall_mem_cons]
      refine ⟨fun c hc => ?_, by decide, hline, hmore⟩
      rw [hfront c hc]
      decide

/-! ## The reader at a stray line -/

/-- What is found at a stray line that takes others with it: an entry with a key over several
lines. -/
def outcomesAfterLost (outcomes : Set Outcome) : Set Outcome :=
  {o | ∃ key value, '\n' ∈ key.toList ∧ o ∈ outcomesAfter [.entry key value] outcomes}

/-- What is found if a comment mark does not start its line. -/
def outcomesInline (marked : Bool) : Set Outcome :=
  {o | marked = true ∧ ∃ place, o = .error ⟨place, .inlineComment⟩}

/-- A stray line with its first character that is not blank. -/
structure Line.Stray.Parts (line before : List Char) (first : Char) (key : List Char) : Prop where
  eq : line = before ++ first :: key
  blanks : AllBlank before
  notBlank : isBlank first = false
  noBracket : first ≠ '['
  noComment : before = [] → isMark first = false
  isMarked : isMarked line = isMark first

theorem Line.Stray.parts (h : Line.Stray stray) :
    ∃ before first key, Line.Stray.Parts stray before first key := by
  have hnoHeader := h.noHeader
  have hmarked : isMarked stray = (trimStart stray).head?.any isMark := rfl
  cases hstart : trimStart stray with
  | nil => exact absurd (List.dropWhile_eq_nil_iff.mp hstart) h.notBlank
  | cons first key =>
      rw [hstart] at hnoHeader hmarked
      have hsplit : stray = stray.takeWhile isBlank ++ first :: key := by
        rw [← hstart, trimStart, List.takeWhile_append_dropWhile]
      refine ⟨stray.takeWhile isBlank, first, key, hsplit,
        fun c hc => List.mem_takeWhile_imp hc, isBlank_of_trimStart hstart,
        by simpa using hnoHeader, fun hnil => ?_, hmarked⟩
      have hcomment := h.noComment
      rw [hsplit, hnil] at hcomment
      exact hcomment

theorem isMark_eq_false_iff {c : Char} : isMark c = false ↔ c ≠ ';' ∧ c ≠ '#' := by
  simp [isMark]

/-- A line feed between characters that are not blank is not trimmed. -/
theorem feed_mem_trim {first : Char} (hfirst : isBlank first = false) {last : List Char}
    (hlast : ¬AllBlank last) (between : List Char) :
    '\n' ∈ trim (first :: (between ++ '\n' :: last)) := by
  have hstart : trimStart (first :: (between ++ '\n' :: last)) =
      (first :: (between ++ ['\n'])) ++ last := by
    simp [trimStart, hfirst]
  rw [trim, hstart, trimEnd_append hlast]
  simp

theorem reads_of_fault {p : Place} {c : Char} {cs : List Char} {f : Fault}
    (hs : step p c cs = .error f) (h : .error f ∈ outcomes) : Reads ⟨p, c :: cs⟩ outcomes := by
  rw [Reads, itemsFrom]
  split
  · next g hg =>
    obtain rfl := Except.error.inj (hs.symm.trans hg)
    exact h
  · next s hs' =>
    rw [hs] at hs'
    cases hs'

/-- With the blanks in front being skipped, a comment mark after some of them is a defect. -/
theorem reads_skipped {before rest : List Char} {first : Char} (hbefore : AllBlank before)
    (hu : Unbroken before) (hblank : isBlank first = false)
    (hcomment : before = [] → isMark first = false)
    (h : isMark first = false → ∀ q, Reads ⟨q, first :: rest⟩ outcomes) (p : Place) :
    Reads (skipBetween p (before ++ first :: rest)) (outcomes ∪ outcomesInline (isMark first)) := by
  obtain ⟨q, hcol, hq⟩ := skipBetween_blanks hbefore hu (first :: rest) p
  rw [hq, skipBetween_of_not_isBlank hblank]
  cases hmark : isMark first with
  | false => exact .inl (h hmark q)
  | true =>
      have hne : before.length ≠ 0 := fun hzero => by
        rw [hcomment (List.length_eq_zero_iff.mp hzero)] at hmark
        cases hmark
      have hmark' : first = ';' ∨ first = '#' := by simpa [isMark] using hmark
      refine reads_of_fault ?_ (.inr ⟨rfl, q.next first, rfl⟩)
      rw [step, if_pos hmark', if_neg (by omega)]

theorem readable_stray (hstray : Line.Stray stray) (hu : Unbroken stray)
    (hafter : ∀ line ∈ after, Line.Literal line) (hsome : after.any Line.hasSeparator = true)
    (h : Readable (sparedLines after) outcomes) :
    Readable (stray :: after)
      (outcomesAfterLost outcomes ∪ outcomesInline (Line.isMarked stray)) where
  nothing hnil := by cases hnil
  start cs p hcs _ := by
    obtain ⟨tail, rfl, htail⟩ := linesOf_split hcs
    obtain ⟨front, last, separator, text, rest, hgap⟩ := exists_gap htail hafter hsome
    obtain ⟨before, first, key, hparts⟩ := hstray.parts
    obtain rfl := hparts.eq
    have hassigns : Assigns first separator (key ++ (front ++ '\n' :: last)) text rest :=
      { blank := hparts.notBlank
        noBracket := hparts.noBracket
        chars := by
          have hkey := hstray.chars
          have hgap' := hgap.chars
          simp only [List.forall_mem_append, List.forall_mem_cons] at hkey hgap' ⊢
          exact ⟨hkey.2.1, hkey.2.2, hgap'⟩
        separates := hgap.separates
        escape := paired_of_getLast? fun h => hgap.noBackslash (List.mem_of_getLast? h)
        unbroken := hgap.unbroken
        ends := hgap.follows.lineEnd }
    have hresumes {settled : Bool}
        (hlead : leadsReadable settled ((before ++ first :: key) :: after) = true) :
        Resumes rest outcomes :=
      h.resumes hgap.follows
        (leadsReadable_sparedLines (leadsReadable_settled (Bool.and_eq_true_iff.mp hlead).2))
    have hfeed :
        '\n' ∈ (String.ofList (trim (first :: (key ++ (front ++ '\n' :: last))))).toList := by
      simpa using feed_mem_trim hparts.notBlank hgap.notBlank (key ++ front)
    -- the blanks in front may have been skipped before the key is read
    have hreads (hrest : Resumes rest outcomes) (bs : List Char) (hbs : AllBlank bs)
        (hub : Unbroken bs) (hcomment : bs = [] → isMark first = false) (q : Place) :
        Reads ⟨q, bs ++ first :: ((key ++ (front ++ '\n' :: last)) ++ separator :: (text ++ rest))⟩
          (outcomesAfterLost outcomes) :=
      ⟨_, _, hfeed, reads_entry hassigns hbs hub
        (fun hnil => isMark_eq_false_iff.mp (hcomment hnil)) hrest q⟩
    have htext : before ++ first :: key ++ tail =
        before ++ first :: ((key ++ (front ++ '\n' :: last)) ++ separator :: (text ++ rest)) := by
      simp [hgap.eq]
    rw [htext, hparts.isMarked]
    refine ⟨fun hlead => .inl (hreads (hresumes hlead) before hparts.blanks hu.of_append_left
      hparts.noComment p), fun hlead => ?_⟩
    exact reads_skipped hparts.blanks hu.of_append_left hparts.notBlank hparts.noComment
      (fun hmark q => hreads (hresumes hlead) [] (by simp [AllBlank]) (by simp [Unbroken])
        (fun _ => hmark) q) p

/-! ## The reader at the last key -/

/-- What is found in a key that does not end. At the start of a line that opens with a space
or a tab the text may end with it. -/
def outcomesUnended (indented : Bool) : Set Outcome :=
  {o | (∃ place, o = .error ⟨place, .unended .separator⟩) ∨ (indented = true ∧ o = .ok [])}

theorem keyed_unended {cs : List Char} (h : ∀ c ∈ cs, Line.isSeparator c = false ∧ c ≠ '\\')
    (p : Place) : ∃ q, keyed p cs = .error ⟨q, .unended .separator⟩ := by
  obtain ⟨q, hq⟩ := piece_append Closing.separator.ends cs [] (fun c hc => (h c hc).1)
    (.inl fun hmem => (h _ hmem).2 rfl)
    (paired_of_getLast? fun hlast => (h _ (List.mem_of_getLast? hlast)).2 rfl) (by simp) p
  rw [List.append_nil] at hq
  exact ⟨q, by rw [keyed, hq]⟩

theorem indented_unended {p q : Place} {c : Char} {cs : List Char} (hc : c ≠ '[')
    (he : isLineEnd c = false) (h : keyed p (c :: cs) = .error ⟨q, .unended .separator⟩) :
    indented p (c :: cs) = .ok ⟨none, q, []⟩ := by
  rw [indented.eq_3 _ _ _ (fun h => hc h), if_neg (by simp [he]), h]

theorem reads_unended {before key : List Char} {first : Char} (hbefore : AllBlank before)
    (hu : Unbroken before) (hblank : isBlank first = false) (hbracket : first ≠ '[')
    (hcomment : before = [] → isMark first = false)
    (hchars : ∀ c ∈ before ++ first :: key, Line.isSeparator c = false ∧ c ≠ '\\') (p : Place) :
    Reads ⟨p, before ++ first :: key⟩ (outcomesUnended (before.head?.any isIndent)) := by
  have hend : isLineEnd first = false := isLineEnd_of_not_isBlank hblank
  have hindent : isIndent first = false := isIndent_of_not_isBlank hblank
  cases before with
  | nil =>
      obtain ⟨q, hq⟩ := keyed_unended hchars p
      rw [List.nil_append] at hq ⊢
      refine reads_of_fault ?_ (.inl ⟨q, rfl⟩)
      rw [step_keyed p ⟨hbracket, isMark_eq_false_iff.mp (hcomment rfl)⟩ hindent hend, hq]
      rfl
  | cons b bs =>
      have hb := hbefore b (List.mem_cons_self ..)
      cases hi : isIndent b with
      | false =>
          obtain ⟨q, hq⟩ := keyed_unended hchars p
          refine reads_of_fault ?_ (.inl ⟨q, rfl⟩)
          rw [step_keyed p (ne_mark_of_isBlank hb) hi (hu b (List.mem_cons_self ..))]
          exact (congrArg (Except.map Step.settle) hq).trans rfl
      | true =>
          -- what is left of the blanks is part of the key
          obtain ⟨p', hp'⟩ := skipWhile_dropWhile hindent bs key (p.next b)
          have hsub : ∀ c ∈ bs.dropWhile isIndent, c ∈ bs :=
            fun c hc => (List.dropWhile_sublist _).mem hc
          have hrest : ∀ c ∈ bs.dropWhile isIndent ++ first :: key,
              Line.isSeparator c = false ∧ c ≠ '\\' := fun c hc =>
            hchars c (by
              rcases List.mem_append.mp hc with hmem | hmem
              · simp [hsub c hmem]
              · simp [List.mem_cons.mp hmem])
          obtain ⟨q, hq⟩ := keyed_unended hrest p'
          have hended :
              indented p' (bs.dropWhile isIndent ++ first :: key) = .ok ⟨none, q, []⟩ := by
            cases hdrop : bs.dropWhile isIndent with
            | nil =>
                rw [hdrop] at hq
                exact indented_unended hbracket hend hq
            | cons c cs =>
                have hmem : c ∈ bs := hsub c (by simp [hdrop])
                rw [hdrop] at hq
                exact indented_unended (ne_mark_of_isBlank (hbefore.tail c hmem)).1
                  (hu.of_cons c hmem) hq
          refine reads_of_passing ?_ (reads_nil (.inr ⟨by simpa using hi, rfl⟩) q)
          rw [List.append_eq, step_indent p hi, hp']
          exact hended

theorem readable_stray_unended (hstray : Line.Stray stray) (hu : Unbroken stray)
    (hafter : ∀ line ∈ after, Line.Literal line) (hnone : after.any Line.hasSeparator = false) :
    Readable (stray :: after) (outcomesUnended (stray.head?.any isIndent)
      ∪ outcomesInline (Line.isMarked stray)) where
  nothing hnil := by cases hnil
  start cs p hcs _ := by
    obtain ⟨tail, rfl, htail⟩ := linesOf_split hcs
    have hrest := not_isSeparator_of_follows htail hafter hnone
    obtain ⟨before, first, key, hparts⟩ := hstray.parts
    obtain rfl := hparts.eq
    have hchars : ∀ c ∈ before ++ first :: (key ++ tail),
        Line.isSeparator c = false ∧ c ≠ '\\' := by
      have hkey := hstray.chars
      simp only [List.forall_mem_append, List.forall_mem_cons] at hkey ⊢
      exact ⟨hkey.1, hkey.2.1, hkey.2.2, hrest⟩
    have hhead : (before ++ first :: key).head?.any isIndent = before.head?.any isIndent := by
      cases before with
      | nil => simpa using isIndent_of_not_isBlank hparts.notBlank
      | cons b bs => rfl
    have htext : before ++ first :: key ++ tail = before ++ first :: (key ++ tail) := by simp
    rw [hhead, htext, hparts.isMarked]
    refine ⟨fun _ => .inl (reads_unended hparts.blanks hu.of_append_left hparts.notBlank
      hparts.noBracket hparts.noComment hchars p), fun _ => ?_⟩
    refine reads_skipped hparts.blanks hu.of_append_left hparts.notBlank hparts.noComment
      (fun hmark q => ?_) p
    have hreads := reads_unended (show AllBlank [] by simp [AllBlank]) (by simp [Unbroken])
      hparts.notBlank hparts.noBracket (fun _ => hmark)
      (fun c hc => hchars c (List.mem_append_right _ hc)) q
    exact hreads.imp_right fun hended => by cases hended.1

/-! ## Texts with a stray line -/

theorem Line.Stray.isEntry (h : Line.Stray stray) (hmark : Line.isMarked stray = false) :
    Line.isEntry stray = true := by
  obtain ⟨before, first, key, hparts⟩ := h.parts
  rw [hparts.isMarked, isMark_eq_false_iff] at hmark
  have hitem : ∃ key' value, item? stray = some (.entry key' value) := by
    rw [item?, hparts.eq, trimStart_append hparts.blanks hparts.notBlank]
    split
    · next heq => cases heq
    · next heq => exact absurd (List.cons.inj heq).1 hparts.noBracket
    · next c cs _ heq =>
      obtain ⟨rfl, rfl⟩ := List.cons.inj heq
      exact ⟨_, _, if_neg (by simp [hmark])⟩
  obtain ⟨key', value, hitem⟩ := hitem
  rw [Line.isEntry, hitem]

theorem Line.Stray.isIndentOnly (h : Line.Stray stray) : Line.isIndentOnly stray = false := by
  cases honly : Line.isIndentOnly stray with
  | false => rfl
  | true =>
      rw [Line.isIndentOnly, Bool.and_eq_true, List.all_eq_true] at honly
      exact absurd (fun c hc => isBlank_of_isIndent (honly.2 c hc)) h.notBlank

theorem leadsReadable_insert (hstray : Line.Stray stray)
    (hlead : Line.isMarked stray = true → Line.hasPlainLead stray = true)
    {before : List (List Char)} {settled : Bool}
    (h : leadsReadable settled (before ++ after) = true) :
    leadsReadable settled (before ++ stray :: after) = true := by
  induction before generalizing settled with
  | nil =>
      have hlead' : (Line.isEntry stray || Line.hasPlainLead stray) = true := by
        cases hmark : Line.isMarked stray with
        | false => rw [hstray.isEntry hmark, Bool.true_or]
        | true => rw [hlead hmark, Bool.or_true]
      rw [List.nil_append, leadsReadable, hlead', hstray.isIndentOnly]
      exact leadsReadable_settled h
  | cons line before ih =>
      simp only [List.cons_append, leadsReadable, Bool.and_eq_true] at h ⊢
      exact ⟨h.1, ih h.2⟩

/-- A text of regular lines, and the same text with a stray line between two of them. The blanks
in front of headers, or alone on a line, can be read; those in front of a comment mark on the
stray line are spaces and tabs. -/
structure Strayed (before : List (List Char)) (stray : List Char) (after : List (List Char))
    (content altered : String) : Prop where
  lines : linesOf content.toList = before ++ after
  alteredLines : linesOf altered.toList = before ++ stray :: after
  literal : ∀ line ∈ before ++ after, Line.Literal line
  leads : leadsReadable false (before ++ after) = true
  noReturn : '\r' ∉ stray
  isStray : Line.Stray stray
  lead : Line.isMarked stray = true → Line.hasPlainLead stray = true

section Strayed

variable {before : List (List Char)} {content altered : String}

theorem Strayed.whole (h : Strayed before stray after content altered) :
    ∀ line ∈ before ++ after, Line.Whole line ∧ Unbroken line :=
  fun line hline => ⟨.regular (h.literal line hline).regular, (h.literal line hline).unbroken⟩

theorem Strayed.unbroken (h : Strayed before stray after content altered) : Unbroken stray :=
  .of_mem_linesOf (show stray ∈ linesOf altered.toList by simp [h.alteredLines]) h.noReturn

/-- Without the stray line. -/
theorem Strayed.read_content (h : Strayed before stray after content altered) :
    read content = .ok ⟨itemsOf (before ++ after)⟩ := by
  rw [← h.lines]
  refine read_eq_items_of_whole (fun line hline => ?_) (h.lines ▸ h.leads)
  rw [h.lines] at hline
  refine ⟨(h.whole line hline).1, fun hmem => ?_⟩
  exact absurd ((h.whole line hline).2 _ hmem) (by decide)

theorem Strayed.read_altered (h : Strayed before stray after content altered)
    (hreadable : Readable (stray :: after) outcomes) :
    ∃ o ∈ outcomesAfter (itemsOf before) outcomes, read altered = o.map KeyFile.mk := by
  have hwhole : ∀ line ∈ before, Line.Whole line ∧ Unbroken line :=
    fun line hline => h.whole line (List.mem_append_left _ hline)
  refine Readable.read ?_ ?_
  · rw [h.alteredLines]
    exact hreadable.append hwhole
  · rw [h.alteredLines]
    exact leadsReadable_insert h.isStray h.lead h.leads

/-- What the reader makes of a text with a stray line. Either it stops at the stray line, or the
lost lines give way to one entry with a key over several lines, or the text ends with the stray
line. -/
theorem Strayed.read_cases (h : Strayed before stray after content altered) :
    (∃ fault, read altered = .error fault
        ∧ (Line.isMarked stray = true ∧ fault.defect = .inlineComment
          ∨ after.any Line.hasSeparator = false ∧ fault.defect = .unended .separator))
      ∨ (after.any Line.hasSeparator = true ∧ ∃ key value, '\n' ∈ key.toList ∧
        read altered = .ok ⟨itemsOf before ++ .entry key value :: itemsOf (sparedLines after)⟩)
      ∨ (after.any Line.hasSeparator = false ∧ stray.head?.any isIndent = true
        ∧ read altered = .ok ⟨itemsOf before⟩) := by
  have hliteral : ∀ line ∈ after, Line.Literal line :=
    fun line hline => h.literal line (List.mem_append_right _ hline)
  cases hsome : after.any Line.hasSeparator with
  | true =>
      have hspared : Readable (sparedLines after) {.ok (itemsOf (sparedLines after))} :=
        readable_of_whole fun line hline => h.whole line (by
          rw [← lostLines_append_sparedLines after]
          simp [hline])
      obtain ⟨-, ⟨o, ho, rfl⟩, hread⟩ :=
        h.read_altered (readable_stray h.isStray h.unbroken hliteral hsome hspared)
      rcases ho with ⟨key, value, hfeed, ho⟩ | ⟨hmark, place, rfl⟩
      · refine .inr (.inl ⟨rfl, key, value, hfeed, ?_⟩)
        rw [outcomesAfter_ok] at ho
        rw [hread, Set.mem_singleton_iff.mp ho]
        rfl
      · exact .inl ⟨_, hread, .inl ⟨hmark, rfl⟩⟩
  | false =>
      obtain ⟨-, ⟨o, ho, rfl⟩, hread⟩ :=
        h.read_altered (readable_stray_unended h.isStray h.unbroken hliteral hsome)
      rcases ho with (⟨place, rfl⟩ | ⟨hindent, rfl⟩) | ⟨hmark, place, rfl⟩
      · exact .inl ⟨_, hread, .inr ⟨rfl, rfl⟩⟩
      · refine .inr (.inr ⟨rfl, hindent, ?_⟩)
        rw [hread]
        simp [Except.map]
      · exact .inl ⟨_, hread, .inl ⟨hmark, rfl⟩⟩

end Strayed

end GadgetModes.KeyFile
