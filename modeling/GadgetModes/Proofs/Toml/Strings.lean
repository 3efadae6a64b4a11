import Mathlib.Data.List.Basic
import GadgetModes.Toml.Document
import GadgetModes.Toml.Writing

/-!
# Strings that were written are read

A form carries a text when it writes escapes, or when the text has neither too many quotes in a
row nor characters that have to be escaped (`Form.Carries`). A text that is written in such a
form is read back (`value_writtenIn`): the reader cuts the string off at its closing quotes and
nowhere before (`Body`), and decoding undoes the escapes (`decode_escaped`).
-/

namespace GadgetModes.Toml

variable {f : Form} {text tail : List Char}

/-! ## Escapes -/

theorem digitValue?_hexDigit : ∀ n < 16, digitValue? (hexDigit n) = some n := by
  decide

theorem charOf?_toNat (c : Char) : charOf? c.toNat = some c := by
  have hvalid : c.toNat.isValidChar := c.valid
  rw [charOf?, if_pos hvalid, Char.ofNat_toNat]

theorem toNat_le_of_not_isText {c : Char} (h : isText c = false) : c.toNat ≤ 127 := by
  simp only [isText, Bool.or_eq_false_iff, Bool.and_eq_false_iff, decide_eq_false_iff_not] at h
  omega

/-- A code point of two digits that are not zero stands for its character. -/
theorem decode_code {c : Char} (h : c.toNat ≤ 127) (lines : Bool) (rest : List Char) :
    decode lines .text
        ('\\' :: 'u' :: '0' :: '0' :: hexDigit (c.toNat / 16) :: hexDigit (c.toNat % 16) :: rest) =
      (decode lines .text rest).map (c :: ·) := by
  have hhigh := digitValue?_hexDigit (c.toNat / 16) (by omega)
  have hlow := digitValue?_hexDigit (c.toNat % 16) (by omega)
  have hzero : digitValue? '0' = some 0 := by decide
  have hvalue : 16 * (c.toNat / 16) + c.toNat % 16 = c.toNat := Nat.div_add_mod _ _
  simp [decode, hzero, hhigh, hlow, hvalue, charOf?_toNat]

/-- A letter after a backslash stands for one character, wherever it stands. -/
theorem decode_letter {d c : Char} (hd : escaped? d = some c) (lines : Bool)
    (rest : List Char) :
    decode lines .text ('\\' :: d :: rest) = (decode lines .text rest).map (c :: ·) := by
  have hletter : d ∈ ['b', 't', 'n', 'f', 'r', '"', '\\'] := by
    rw [escaped?] at hd
    grind
  have hplain : ∀ d ∈ ['b', 't', 'n', 'f', 'r', '"', '\\'],
      d ≠ 'u' ∧ d ≠ 'U' ∧ isBlank d = false ∧ d ≠ '\n' := by simp [isBlank]
  obtain ⟨hu, hU, hblank, hnewline⟩ := hplain d hletter
  simp [decode, hu, hU, hblank, hnewline, hd]

/-- Decoding undoes the escape of a character. -/
theorem decode_escape (lines : Bool) (c : Char) (rest : List Char) :
    decode lines .text (escape c ++ rest) = (decode lines .text rest).map (c :: ·) := by
  rw [escape]
  repeat' split
  all_goals first
    | (next h => subst h; exact decode_letter (by decide) lines rest)
    | skip
  · next hslash _ _ _ _ _ htext => simp [decode, hslash, htext]
  · next htext => exact decode_code (toNat_le_of_not_isText (by simpa using htext)) lines rest

theorem decode_escaped (f : Form) (quotes : Nat) (text : List Char) :
    decode f.lines .text (escaped f quotes text) = some text := by
  induction text generalizing quotes with
  | nil => rfl
  | cons c text ih =>
      rw [escaped]
      split
      · next hquote =>
        subst hquote
        split
        · simp [decode, isText, ih]
        · rw [decode_letter (c := '"') (by decide), ih]
          rfl
      · split
        · next hnewline =>
          simp only [Bool.and_eq_true, decide_eq_true_eq] at hnewline
          obtain ⟨rfl, hlines⟩ := hnewline
          rw [hlines] at ih ⊢
          simp [decode, ih]
        · rw [decode_escape, ih]
          rfl

/-! ## Bodies -/

/-- What stands between the quotes of a form: no backslash but those that escape something, if
there are escapes, and never more quotes in a row than the form can carry. -/
inductive Body (f : Form) : List Char → Prop
  | nil : Body f []
  | char {c : Char} {rest : List Char} (hquote : c ≠ f.quote)
      (hplain : f.escapes = true → c ≠ '\\') (h : Body f rest) : Body f (c :: rest)
  | pair {c : Char} {rest : List Char} (hescapes : f.escapes = true) (h : Body f rest) :
      Body f ('\\' :: c :: rest)
  | quotes {n : Nat} {rest : List Char} (hn : n ≤ f.spare) (hrest : rest.head? ≠ some f.quote)
      (h : Body f rest) : Body f (List.replicate n f.quote ++ rest)

theorem Form.quote_ne_backslash (f : Form) : f.quote ≠ '\\' := by
  rw [Form.quote]
  split <;> decide

section Cutting

variable {quote c : Char} {escapes : Bool} {rest : List Char}

theorem cutLine_quote : cutLine quote escapes (quote :: rest) = some ([], rest) := by
  rw [cutLine.eq_def]
  exact if_pos rfl

theorem cutLine_char (hquote : c ≠ quote) (hplain : escapes = true → c ≠ '\\') :
    cutLine quote escapes (c :: rest) =
      (cutLine quote escapes rest).map fun (body, rest) => (c :: body, rest) := by
  have hnot : ¬(escapes && c = '\\') = true := by simpa using hplain
  rw [cutLine.eq_def]
  exact (if_neg hquote).trans (if_neg hnot)

theorem cutLines_char (hquote : c = quote → rest.take 2 ≠ [quote, quote])
    (hplain : escapes = true → c ≠ '\\') :
    cutLines quote escapes (c :: rest) =
      (cutLines quote escapes rest).map fun (body, rest) => (c :: body, rest) := by
  have hnot : ¬(escapes && c = '\\') = true := by simpa using hplain
  have hgoes : ¬(c = quote && rest.take 2 = [quote, quote]) = true := by simpa using hquote
  rw [cutLines.eq_def]
  exact (if_neg hgoes).trans (if_neg hnot)

end Cutting

/-- A string on one line ends at its first quote that is not escaped. -/
theorem Body.cutLine {body : List Char} (h : Body f body) (hline : f.lines = false) :
    cutLine f.quote f.escapes (body ++ f.quote :: tail) = some (body, tail) := by
  induction h with
  | nil => exact cutLine_quote
  | @char c rest hquote hplain h ih =>
      rw [List.cons_append, cutLine_char hquote hplain, ih]
      rfl
  | @pair c rest hescapes h ih =>
      rw [List.cons_append, List.cons_append, Toml.cutLine, if_neg f.quote_ne_backslash.symm,
        if_pos (by simp [hescapes])]
      simp only [ih]
      rfl
  | @quotes n rest hn hrest h ih =>
      obtain rfl : n = 0 := by simpa [Form.spare, hline] using hn
      exact ih

theorem Body.head?_ne {body : List Char} (h : Body f body) (hline : f.lines = false) :
    body.head? ≠ some f.quote := by
  cases h with
  | nil => simp
  | char hquote hplain h => simpa using hquote
  | pair hescapes h => simpa using f.quote_ne_backslash.symm
  | @quotes n rest hn hrest h =>
      obtain rfl : n = 0 := by simpa [Form.spare, hline] using hn
      exact hrest

/-- Some quotes, fewer than three, that are followed by something else do not end a string on
several lines. -/
theorem cutLines_replicate {quote : Char} (hquote : quote ≠ '\\') (escapes : Bool) {n : Nat}
    (hn : n ≤ 2) {s : List Char} (hs : s ≠ []) (hhead : s.head? ≠ some quote) :
    cutLines quote escapes (List.replicate n quote ++ s) =
      (cutLines quote escapes s).map fun (body, rest) =>
        (List.replicate n quote ++ body, rest) := by
  obtain ⟨c, s, rfl⟩ := List.exists_cons_of_ne_nil hs
  have hc : c ≠ quote := by simpa using hhead
  have hone : cutLines quote escapes (quote :: c :: s) =
      (cutLines quote escapes (c :: s)).map fun (body, rest) => (quote :: body, rest) :=
    cutLines_char (by simp [hc]) fun _ => hquote
  match n, hn with
  | 0, _ => simp
  | 1, _ => exact hone
  | 2, _ =>
      show cutLines quote escapes (quote :: quote :: c :: s) = _
      rw [cutLines_char (by simp [hc]) fun _ => hquote, hone, Option.map_map]
      rfl

/-- Some quotes right before the closing ones belong to the string. -/
theorem cutLines_end {quote : Char} (escapes : Bool) {n : Nat} (hn : n ≤ 2)
    (htail : tail.head? ≠ some quote) :
    cutLines quote escapes (List.replicate n quote ++ quote :: quote :: quote :: tail) =
      some (List.replicate n quote, tail) := by
  have hfirst : (tail.take 2).takeWhile (· = quote) = [] ∧
      ((tail.take 1).takeWhile (· = quote)) = [] := by
    cases tail with
    | nil => exact ⟨rfl, rfl⟩
    | cons c tail => simp_all
  match n, hn with
  | 0, _ => simp [cutLines, hfirst]
  | 1, _ => simp [cutLines, hfirst]
  | 2, _ => simp [cutLines]

/-- A string on several lines ends at its first three quotes in a row, but for some more. -/
theorem Body.cutLines {body : List Char} (h : Body f body) (hlines : f.lines = true)
    (htail : tail.head? ≠ some f.quote) :
    cutLines f.quote f.escapes (body ++ f.quote :: f.quote :: f.quote :: tail) =
      some (body, tail) := by
  have hspare : f.spare = 2 := by simp [Form.spare, hlines]
  induction h with
  | nil => exact cutLines_end f.escapes (Nat.zero_le 2) htail
  | @char c rest hquote hplain h ih =>
      rw [List.cons_append, cutLines_char (fun h => absurd h hquote) hplain, ih]
      rfl
  | @pair c rest hescapes h ih =>
      rw [List.cons_append, List.cons_append, Toml.cutLines,
        if_neg (by simp [f.quote_ne_backslash.symm]), if_pos (by simp [hescapes])]
      simp only [ih]
      rfl
  | @quotes n rest hn hrest h ih =>
      rw [hspare] at hn
      by_cases hnil : rest = []
      · rw [hnil, List.append_nil]
        exact cutLines_end f.escapes hn htail
      · obtain ⟨c, s, rfl⟩ := List.exists_cons_of_ne_nil hnil
        rw [List.append_assoc,
          cutLines_replicate f.quote_ne_backslash f.escapes hn (by simp) (by simpa using hrest), ih]
        rfl

/-! ## Bodies that are written -/

theorem Form.quote_of_escapes (h : f.escapes = true) : f.quote = '"' := by
  simp [Form.quote, h]

theorem Body.escape {c : Char} {rest : List Char} (hescapes : f.escapes = true)
    (hquote : c ≠ '"') (h : Body f rest) : Body f (escape c ++ rest) := by
  have hpair : ∀ d, Body f ('\\' :: d :: rest) := fun d => .pair hescapes h
  have hplain : ∀ {d rest}, d ≠ '"' → d ≠ '\\' → Body f rest → Body f (d :: rest) :=
    fun hd hslash => .char (by rw [f.quote_of_escapes hescapes]; exact hd) fun _ => hslash
  have hhex : ∀ n < 16, hexDigit n ≠ '"' ∧ hexDigit n ≠ '\\' := by decide
  rw [Toml.escape]
  repeat' split
  all_goals first
    | exact hpair _
    | skip
  · next hslash _ _ _ _ _ _ => exact hplain hquote hslash h
  · next hslash _ _ _ _ _ htext =>
    have hcode := toNat_le_of_not_isText (by simpa using htext)
    obtain ⟨hhigh, hhigh'⟩ := hhex (c.toNat / 16) (by omega)
    obtain ⟨hlow, hlow'⟩ := hhex (c.toNat % 16) (by omega)
    exact .pair hescapes (hplain (by decide) (by decide) (hplain (by decide) (by decide)
      (hplain hhigh hhigh' (hplain hlow hlow' h))))

theorem head?_escape_append {c : Char} (hquote : c ≠ '"') (rest : List Char) :
    (escape c ++ rest).head? ≠ some '"' := by
  rw [escape]
  repeat' split
  all_goals simp [hquote]

/-- Text with escapes may follow as many quotes as were counted. -/
theorem body_escaped (hescapes : f.escapes = true) {n : Nat} (hn : n ≤ f.spare)
    (text : List Char) : Body f (List.replicate n f.quote ++ escaped f n text) := by
  induction text generalizing n with
  | nil => exact .quotes hn (by simp [escaped]) .nil
  | cons c text ih =>
      have hrest : Body f (escaped f 0 text) := ih (Nat.zero_le _)
      rw [escaped]
      by_cases hquote : c = '"'
      · rw [if_pos hquote, hquote]
        split
        · next hlt =>
          have hmore := ih (Nat.succ_le_of_lt hlt)
          rw [List.replicate_succ', List.append_assoc, f.quote_of_escapes hescapes] at hmore
          rw [f.quote_of_escapes hescapes]
          exact hmore
        · refine .quotes hn ?_ (.pair hescapes hrest)
          simpa using f.quote_ne_backslash.symm
      · rw [if_neg hquote]
        split
        · next hnewline =>
          simp only [Bool.and_eq_true, decide_eq_true_eq] at hnewline
          obtain ⟨rfl, -⟩ := hnewline
          have hhead : '\n' ≠ f.quote := by rw [f.quote_of_escapes hescapes]; decide
          exact .quotes hn (by simpa using hhead) (.char hhead (fun _ => by decide) hrest)
        · refine .quotes hn ?_ (hrest.escape hescapes hquote)
          rw [f.quote_of_escapes hescapes]
          exact head?_escape_append hquote _

theorem isText_of_mem_escape {c d : Char} (h : d ∈ escape c) : isText d = true := by
  have hhex : ∀ n < 16, isText (hexDigit n) = true := by decide
  rw [escape] at h
  split at h
  iterate 6
    · simp only [List.mem_cons, List.not_mem_nil, or_false] at h
      rcases h with rfl | rfl <;> decide
    split at h
  · next htext =>
    rw [List.mem_singleton.mp h]
    exact htext
  · next htext =>
    have hcode := toNat_le_of_not_isText (by simpa using htext)
    simp only [List.mem_cons, List.not_mem_nil, or_false] at h
    rcases h with rfl | rfl | rfl | rfl | rfl | rfl
    · decide
    · decide
    · decide
    · decide
    · exact hhex _ (by omega)
    · exact hhex _ (by omega)

theorem mem_escaped {n : Nat} {d : Char} (h : d ∈ escaped f n text) :
    isText d = true ∨ (d = '\n' ∧ '\n' ∈ text) := by
  induction text generalizing n with
  | nil => cases h
  | cons c text ih =>
      have hrest : ∀ {n}, d ∈ escaped f n text → isText d = true ∨ (d = '\n' ∧ '\n' ∈ c :: text) :=
        fun h => (ih h).imp_right fun h => ⟨h.1, List.mem_cons_of_mem _ h.2⟩
      rw [escaped] at h
      split at h
      · next hquote =>
        subst hquote
        split at h
        · rcases List.mem_cons.mp h with rfl | h
          · exact .inl (by decide)
          · exact hrest h
        · rcases List.mem_cons.mp h with rfl | h
          · exact .inl (by decide)
          · rcases List.mem_cons.mp h with rfl | h
            · exact .inl (by decide)
            · exact hrest h
      · split at h
        · next hnewline =>
          simp only [Bool.and_eq_true, decide_eq_true_eq] at hnewline
          rcases List.mem_cons.mp h with rfl | h
          · exact .inr ⟨hnewline.1, by simp [hnewline.1]⟩
          · exact hrest h
        · rcases List.mem_append.mp h with h | h
          · exact .inl (isText_of_mem_escape h)
          · exact hrest h

/-- A text without too many quotes in a row is a body where nothing is escaped. -/
theorem body_literal (hescapes : f.escapes = false) {n : Nat} (text : List Char)
    (hrun : longestRun f.quote n text ≤ f.spare) :
    Body f (List.replicate n f.quote ++ text) := by
  induction text generalizing n with
  | nil => exact .quotes hrun (by simp) .nil
  | cons c text ih =>
      rw [longestRun] at hrun
      split at hrun
      · next hquote =>
        rw [hquote]
        have hmore := ih hrun
        rwa [List.replicate_succ', List.append_assoc] at hmore
      · next hquote =>
        have hrest : Body f text := ih (Nat.le_trans (Nat.le_max_right ..) hrun)
        exact .quotes (Nat.le_trans (Nat.le_max_left ..) hrun) (by simpa using hquote)
          (.char hquote (by simp [hescapes]) hrest)

/-! ## Forms that carry a text -/

/-- A form carries a text with escapes, or as it is. -/
def Form.Carries (f : Form) (text : List Char) : Prop :=
  f.escapes = true ∨ (f.escapes = false ∧ longestRun f.quote 0 text ≤ f.spare
    ∧ ∀ c ∈ text, isText c = true ∨ (f.lines = true ∧ c = '\n'))

def Form.bodyOf (f : Form) (text : List Char) : List Char :=
  if f.escapes then escaped f 0 text else text

namespace Form

theorem Carries.body (h : f.Carries text) : Body f (f.bodyOf text) := by
  rw [bodyOf]
  rcases h with hescapes | ⟨hescapes, hrun, -⟩
  · rw [if_pos hescapes]
    exact body_escaped hescapes (Nat.zero_le _) text
  · rw [if_neg (by simp [hescapes])]
    exact body_literal hescapes text hrun

/-- What the reader does with a body gives the text back. -/
theorem Carries.decode (h : f.Carries text) :
    (if f.escapes then Toml.decode f.lines .text (f.bodyOf text)
      else literal? f.lines (f.bodyOf text)) = some text := by
  rw [bodyOf]
  rcases h with hescapes | ⟨hescapes, -, htext⟩
  · rw [if_pos hescapes, if_pos hescapes]
    exact decode_escaped f 0 text
  · rw [if_neg (by simp [hescapes]), if_neg (by simp [hescapes])]
    exact if_pos (List.all_eq_true.mpr fun c hc => by simpa using htext c hc)

/-- In a form there are no controls, and line ends only where the text has some. -/
theorem Carries.mem_bodyOf (h : f.Carries text) {c : Char} (hc : c ∈ f.bodyOf text) :
    isText c = true ∨ (c = '\n' ∧ '\n' ∈ text) := by
  rw [bodyOf] at hc
  rcases h with hescapes | ⟨hescapes, -, htext⟩
  · rw [if_pos hescapes] at hc
    exact mem_escaped hc
  · rw [if_neg (by simp [hescapes])] at hc
    exact (htext c hc).imp_right fun ⟨_, hnewline⟩ => ⟨hnewline, hnewline ▸ hc⟩

theorem formOf_carries (text : List Char) : (formOf text).Carries text := by
  have htext : text.any isControl = false → ∀ c ∈ text, isText c = true ∨ c = '\n' := by
    intro hcontrols c hc
    have hno := List.any_eq_false.mp hcontrols c hc
    simp only [isControl, Bool.and_eq_true, decide_eq_true_eq, not_and, Bool.not_eq_true,
      Bool.not_eq_false'] at hno
    by_cases hnewline : c = '\n'
    · exact .inr hnewline
    · exact .inl (by simpa using hno hnewline)
  simp only [formOf]
  repeat' split
  all_goals first
    | exact .inl rfl
    | skip
  · next h =>
    simp only [Bool.and_eq_true, Bool.not_eq_true', decide_eq_true_eq] at h
    obtain ⟨⟨hcontrols, hsingles⟩, hnewline⟩ := h
    refine .inr ⟨rfl, Nat.le_of_eq hsingles, fun c hc => (htext hcontrols c hc).imp_right ?_⟩
    rintro rfl
    simp [hc] at hnewline
  · next h =>
    simp only [Bool.and_eq_true, Bool.not_eq_true', decide_eq_true_eq] at h
    exact .inr ⟨rfl, h.2, fun c hc => (htext h.1 c hc).imp_right fun h => ⟨rfl, h⟩⟩

end Form

/-! ## Reading a string -/

theorem lineString_written (hline : f.lines = false) (h : f.Carries text) :
    lineString f.quote (f.bodyOf text ++ f.quote :: tail) = some (String.ofList text, tail) := by
  have hescapes : (f.quote = '"') = (f.escapes = true) := by
    cases hf : f.escapes <;> simp [Form.quote, hf]
  have hdecode := h.decode
  rw [hline] at hdecode
  simp only [lineString, hescapes, Bool.decide_eq_true, h.body.cutLine hline,
    Option.bind_eq_bind, Option.bind_some]
  split at hdecode
  · next hf => rw [if_pos hf, hdecode]; rfl
  · next hf => rw [if_neg hf, hdecode]; rfl

/-- A line end right after the opening quotes does not count. -/
theorem linesString_written (hlines : f.lines = true) (h : f.Carries text)
    (htail : tail.head? ≠ some f.quote) :
    linesString f.quote ((if text.contains '\n' then ['\n'] else []) ++ f.bodyOf text
      ++ f.quote :: f.quote :: f.quote :: tail) = some (String.ofList text, tail) := by
  have hescapes : (f.quote = '"') = (f.escapes = true) := by
    cases hf : f.escapes <;> simp [Form.quote, hf]
  have hdecode := h.decode
  rw [hlines] at hdecode
  have hnewline : f.quote ≠ '\n' := by
    rw [Form.quote]
    split <;> decide
  generalize hs : (if text.contains '\n' then ['\n'] else []) ++ f.bodyOf text
    ++ f.quote :: f.quote :: f.quote :: tail = s
  have hskip : (if s.head? = some '\n' then s.drop 1 else s) =
      f.bodyOf text ++ f.quote :: f.quote :: f.quote :: tail := by
    rw [← hs]
    by_cases hmem : '\n' ∈ text
    · simp [hmem]
    · have hhead : (f.bodyOf text ++ f.quote :: f.quote :: f.quote :: tail).head? ≠
          some '\n' := by
        intro hhead
        cases hbody : f.bodyOf text with
        | nil => rw [hbody] at hhead; simp [hnewline] at hhead
        | cons c body =>
            obtain rfl : c = '\n' := by rw [hbody] at hhead; simpa using hhead
            rcases h.mem_bodyOf (c := '\n') (by rw [hbody]; simp) with htext | ⟨-, hmem'⟩
            · exact absurd htext (by decide)
            · exact hmem hmem'
      have hnone : ¬text.contains '\n' = true := by simpa using hmem
      rw [if_neg hnone, List.nil_append, if_neg hhead]
  simp only [linesString, hskip, hescapes, Bool.decide_eq_true, h.body.cutLines hlines htail,
    Option.bind_eq_bind, Option.bind_some]
  split at hdecode
  · next hf => rw [if_pos hf, hdecode]; rfl
  · next hf => rw [if_neg hf, hdecode]; rfl

/-- A text that was written in a form that carries it is read as that text. -/
theorem expr_writtenIn (h : f.Carries text) (limits : Limits) (depth : Nat) (rest : List Char) :
    expr limits depth (writtenIn f text ++ '\n' :: rest) =
      some (.string (String.ofList text), '\n' :: rest) := by
  have hquote : f.quote = '"' ∨ f.quote = '\'' := by
    rw [Form.quote]
    split
    · exact .inl rfl
    · exact .inr rfl
  have htail : ('\n' :: rest).head? ≠ some f.quote := by
    rcases hquote with h | h <;> rw [h] <;> simp
  have hexpr : ∀ s, expr limits depth (f.quote :: s) =
      ((if s.take 2 = [f.quote, f.quote] then linesString f.quote (s.drop 2)
        else lineString f.quote s).map fun found => (.string found.1, found.2)) := by
    intro s
    rw [expr.eq_def]
    rcases hquote with h | h <;> simp [h]
  cases hlines : f.lines with
  | true =>
      have hwritten : writtenIn f text ++ '\n' :: rest =
          f.quote :: f.quote :: f.quote :: ((if text.contains '\n' then ['\n'] else [])
            ++ f.bodyOf text ++ f.quote :: f.quote :: f.quote :: '\n' :: rest) := by
        simp [writtenIn, Form.delimiter, Form.spare, hlines, Form.bodyOf]
      rw [hwritten, hexpr]
      refine (congrArg _ (if_pos rfl)).trans ?_
      rw [List.drop_succ_cons, List.drop_succ_cons, List.drop_zero,
        linesString_written hlines h htail]
      rfl
  | false =>
      have hwritten : writtenIn f text ++ '\n' :: rest =
          f.quote :: (f.bodyOf text ++ f.quote :: '\n' :: rest) := by
        simp [writtenIn, Form.delimiter, Form.spare, hlines, Form.bodyOf]
      have hopen : (f.bodyOf text ++ f.quote :: '\n' :: rest).take 2 ≠ [f.quote, f.quote] := by
        have hhead := h.body.head?_ne hlines
        have hnewline : '\n' ≠ f.quote := by simpa using htail
        cases hbody : f.bodyOf text with
        | nil => simp [hnewline]
        | cons c body =>
            rw [hbody] at hhead
            have hc : c ≠ f.quote := by simpa using hhead
            simp [hc]
      rw [hwritten, hexpr, if_neg hopen, lineString_written hlines h]
      rfl

end GadgetModes.Toml
