import GadgetModes.Proofs.Toml.Strings

/-!
# Documents that were written are read

A document that is put together from headers, entries and blank lines gives one statement for
each header and each entry, in their order (`Reads`, `statementsOf_written`). A header with its
entries puts a table with these entries at the end (`Document.foldlM_tableStatements`).
-/

namespace GadgetModes.Toml

variable {name : String} {rest s : List Char} {others : List Statement}

/-! ## Keys -/

def Bare (name : String) : Prop :=
  name.toList ≠ [] ∧ ∀ c ∈ name.toList, isBare c = true

instance (name : String) : Decidable (Bare name) :=
  decidable_of_iff (name.toList ≠ [] ∧ name.toList.all isBare = true) (by simp [Bare])

theorem ne_of_isBare {c d : Char} (h : isBare c = true) (hd : isBare d = false) : c ≠ d := by
  rintro rfl
  rw [h] at hd
  cases hd

theorem not_isBlank_of_isBare {c : Char} (h : isBare c = true) : isBlank c = false := by
  have hspace : c ≠ ' ' := ne_of_isBare h (by decide)
  have htab : c ≠ '\t' := ne_of_isBare h (by decide)
  simp [isBlank, hspace, htab]

theorem skipBlanks_cons {c : Char} (h : isBlank c = false) : skipBlanks (c :: s) = c :: s := by
  rw [skipBlanks, List.dropWhile_cons_of_neg (by simp [h])]

theorem Bare.exists_cons (h : Bare name) :
    ∃ c more, name.toList = c :: more ∧ isBare c = true := by
  obtain ⟨c, more, hname⟩ := List.exists_cons_of_ne_nil h.1
  exact ⟨c, more, hname, h.2 c (by simp [hname])⟩

theorem keyPart_bare (h : Bare name) (hstop : ∀ c, rest.head? = some c → isBare c = false) :
    keyPart (name.toList ++ rest) = some (name, rest) := by
  obtain ⟨c, more, hname, hc⟩ := h.exists_cons
  have hquote : ¬(c = '"' || c = '\'') = true := by
    have hdouble : c ≠ '"' := ne_of_isBare hc (by decide)
    have hsingle : c ≠ '\'' := ne_of_isBare hc (by decide)
    simp [hdouble, hsingle]
  have htake : (name.toList ++ rest).takeWhile isBare = name.toList := by
    rw [List.takeWhile_append_of_pos h.2]
    cases rest with
    | nil => simp
    | cons d rest => simp [hstop d rfl]
  have hdrop : (name.toList ++ rest).dropWhile isBare = rest := by
    rw [List.dropWhile_append_of_pos h.2]
    cases rest with
    | nil => rfl
    | cons d rest => simp [hstop d rfl]
  have hpart : keyPart (name.toList ++ rest) =
      some (String.ofList ((name.toList ++ rest).takeWhile isBare),
        (name.toList ++ rest).dropWhile isBare) := by
    rw [hname, List.cons_append, keyPart.eq_def]
    exact (if_neg hquote).trans (if_pos hc)
  rw [hpart, htake, hdrop, String.ofList_toList]

theorem key_bare (h : Bare name) (hstop : ∀ c, rest.head? = some c → isBare c = false)
    (hdot : (skipBlanks rest).head? ≠ some '.') :
    key .usual (name.toList ++ rest) = some (⟨[], name⟩, skipBlanks rest) := by
  obtain ⟨c, more, hname, hc⟩ := h.exists_cons
  have hskip : skipBlanks (name.toList ++ rest) = name.toList ++ rest := by
    rw [hname]
    exact skipBlanks_cons (not_isBlank_of_isBare hc)
  have hparts : keyParts Limits.usual.parts (name.toList ++ rest) =
      some ([name], skipBlanks rest) := by
    rw [show Limits.usual.parts = 78 + 1 from rfl, keyParts, hskip, keyPart_bare h hstop]
    simp only [Option.bind_eq_bind, Option.bind_some]
    split
    · next heq => simp [heq] at hdot
    · rfl
  rw [key, hparts]
  rfl

/-! ## Expressions -/

/-- What is written of an expression is read as that expression, up to the end of the line. -/
structure Written (e : Expr) (s : List Char) : Prop where
  head : ∃ c more, s = c :: more ∧ isBlank c = false
  read : ∀ rest,
    expr .usual Limits.usual.nesting (s ++ '\n' :: rest) = some (e, '\n' :: rest)
  noReturn : '\r' ∉ s

theorem written_text {f : Form} {text : List Char} (h : f.Carries text) :
    Written (.string (String.ofList text)) (writtenIn f text) where
  head := by
    refine ⟨f.quote, _, rfl, ?_⟩
    rw [Form.quote]
    split <;> decide
  read := expr_writtenIn h .usual Limits.usual.nesting
  noReturn := by
    have hquote : '\r' ≠ f.quote := by
      rw [Form.quote]
      split <;> decide
    have hbody : '\r' ∉ f.bodyOf text := fun hmem => by
      rcases h.mem_bodyOf hmem with htext | ⟨hnewline, -⟩
      · exact absurd htext (by decide)
      · exact absurd hnewline (by decide)
    rw [Form.bodyOf] at hbody
    simp [writtenIn, Form.delimiter, hquote, hbody]

theorem written_truth (b : Bool) : Written (.boolean b) (writtenTruth b) where
  head := by cases b <;> exact ⟨_, _, rfl, by decide⟩
  read := by
    intro rest
    cases b
    · rfl
    · rfl
  noReturn := by cases b <;> decide

/-! ## Statements -/

theorem statement_header (h : Bare name) (rest : List Char) :
    statement .usual (headerLine name ++ rest) = some (.header ⟨[], name⟩, rest) := by
  obtain ⟨c, more, hname, hc⟩ := h.exists_cons
  have hskip : skipBlanks (']' :: '\n' :: rest) = ']' :: '\n' :: rest :=
    skipBlanks_cons (by decide)
  have hkey : key .usual (name.toList ++ ']' :: '\n' :: rest) =
      some (⟨[], name⟩, ']' :: '\n' :: rest) := by
    rw [key_bare h (by simp; decide) (by simp [hskip]), hskip]
  have hbracket : c ≠ '[' := ne_of_isBare hc (by decide)
  have hline : headerLine name ++ rest = '[' :: (name.toList ++ ']' :: '\n' :: rest) := by
    simp [headerLine]
  rw [hline, statement.eq_def]
  rw [hname] at hkey ⊢
  split
  · next heq => simp [hbracket] at heq
  · next heq =>
    obtain rfl := (List.cons.inj heq).2
    simp only [hkey]
    rfl
  · next hnone => exact absurd rfl (hnone _)

theorem statement_entry (h : Bare name) {e : Expr} (hw : Written e s) (rest : List Char) :
    statement .usual (entryLine name s ++ rest) = some (.entry ⟨[], name⟩ e, rest) := by
  obtain ⟨c, more, hname, hc⟩ := h.exists_cons
  obtain ⟨d, tail, hs, hd⟩ := hw.head
  have hbracket : c ≠ '[' := ne_of_isBare hc (by decide)
  have hspace (u : List Char) : skipBlanks (' ' :: u) = skipBlanks u := rfl
  have hequals : skipBlanks (" = ".toList ++ s ++ '\n' :: rest)
      = '=' :: ' ' :: (s ++ '\n' :: rest) := rfl
  have hkey : key .usual (name.toList ++ (" = ".toList ++ s ++ '\n' :: rest)) =
      some (⟨[], name⟩, '=' :: ' ' :: (s ++ '\n' :: rest)) := by
    rw [key_bare h (by simp; decide) (by rw [hequals]; simp), hequals]
  have hexpr : skipBlanks (' ' :: (s ++ '\n' :: rest)) = s ++ '\n' :: rest := by
    rw [hspace, hs]
    exact skipBlanks_cons hd
  have hbinding : binding .usual (expr .usual Limits.usual.nesting)
      (name.toList ++ (" = ".toList ++ s ++ '\n' :: rest)) =
      some ((⟨[], name⟩, e), '\n' :: rest) := by
    rw [binding, hkey]
    simp [expect, hexpr, hw.read rest]
  have hline : entryLine name s ++ rest = name.toList ++ (" = ".toList ++ s ++ '\n' :: rest) := by
    simp [entryLine]
  rw [hline, statement.eq_def]
  rw [hname] at hbinding ⊢
  split
  · next heq => simp [hbracket] at heq
  · next heq => simp [hbracket] at heq
  · simp only [hbinding]
    rfl

/-! ## Documents -/

/-- A text is read as some statements, whatever limit that it is shorter than stands on their
number. There are no carriage returns in it, so no line ends are joined. -/
structure Reads (s : List Char) (sts : List Statement) : Prop where
  read : ∀ limit, s.length < limit → statements .usual limit s = some sts
  noReturn : '\r' ∉ s

namespace Reads

variable {sts : List Statement}

theorem nil : Reads [] [] where
  read limit hlimit := by
    obtain ⟨limit, rfl⟩ := Nat.exists_eq_succ_of_ne_zero (Nat.ne_of_gt hlimit)
    rfl
  noReturn := by simp

theorem blank (h : Reads s sts) : Reads ('\n' :: s) sts where
  read limit hlimit := by
    have hread : statements .usual limit s = some sts :=
      h.read limit (Nat.lt_of_succ_lt hlimit)
    obtain ⟨limit, rfl⟩ := Nat.exists_eq_succ_of_ne_zero (Nat.ne_of_gt (Nat.zero_lt_of_lt hlimit))
    have hskip : skipGaps false ('\n' :: s) = skipGaps false s := rfl
    rw [statements] at hread ⊢
    rw [hskip]
    exact hread
  noReturn := by simp [h.noReturn]

/-- A line that gives one statement stands before what is read already. -/
theorem line {first : Statement} {written : List Char} (h : Reads s sts)
    (hgap : skipGaps false (written ++ s) = written ++ s) (hne : written ≠ [])
    (hfirst : statement .usual (written ++ s) = some (first, s)) (hreturn : '\r' ∉ written) :
    Reads (written ++ s) (first :: sts) where
  read limit hlimit := by
    obtain ⟨limit, rfl⟩ := Nat.exists_eq_succ_of_ne_zero (Nat.ne_of_gt (Nat.zero_lt_of_lt hlimit))
    have hshorter : s.length < limit := by
      have hpos := List.length_pos_iff.mpr hne
      simp only [List.length_append] at hlimit
      omega
    rw [statements, hgap]
    split
    · next heq => simp [hne] at heq
    · rw [hfirst]
      simp [h.read limit hshorter]
  noReturn := by simp [h.noReturn, hreturn]

end Reads

theorem skipGaps_isBare {c : Char} (h : isBare c = true) :
    skipGaps false (c :: s) = c :: s := by
  have hnewline : c ≠ '\n' := ne_of_isBare h (by decide)
  have hhash : c ≠ '#' := ne_of_isBare h (by decide)
  simp [skipGaps, hnewline, hhash, not_isBlank_of_isBare h]

theorem Bare.noReturn (h : Bare name) : '\r' ∉ name.toList := fun hmem =>
  absurd (h.2 _ hmem) (by decide)

theorem Reads.header {sts : List Statement} (hs : Reads s sts) (h : Bare name) :
    Reads (headerLine name ++ s) (.header ⟨[], name⟩ :: sts) :=
  hs.line rfl (by simp [headerLine]) (statement_header h s)
    (by simp [headerLine, h.noReturn])

theorem Reads.entry {sts : List Statement} {e : Expr} {written : List Char} (hs : Reads s sts)
    (h : Bare name) (hw : Written e written) :
    Reads (entryLine name written ++ s) (.entry ⟨[], name⟩ e :: sts) := by
  obtain ⟨c, more, hname, hc⟩ := h.exists_cons
  refine hs.line ?_ (by simp [entryLine]) (statement_entry h hw s) ?_
  · simp only [entryLine, hname, List.cons_append]
    exact skipGaps_isBare hc
  · simp [entryLine, h.noReturn, hw.noReturn]

theorem joinLineEnds_eq_self (h : '\r' ∉ s) : joinLineEnds s = s := by
  fun_induction joinLineEnds s with
  | case1 rest ih => simp at h
  | case2 c rest hnot ih => simp_all
  | case3 => rfl

open Document in
theorem statementsOf_written {sts : List Statement} (hs : Reads s sts)
    (hmark : s.head? ≠ some byteOrderMark) : statementsOf .usual (String.ofList s) = some sts := by
  simp only [statementsOf, String.toList_ofList, joinLineEnds_eq_self hs.noReturn, if_neg hmark]
  exact hs.read _ (Nat.lt_succ_self _)

/-! ## Tables under headers -/

theorem Table.get?_append (t u : Table) (key : String) :
    (t ++ u).get? key = (t.get? key).or (u.get? key) := by
  simp only [Table.get?, List.find?_append]
  cases t.find? (·.1 = key) <;> rfl

theorem Table.put_append_last {t : Table} {key : String} {v w : Value} (h : t.get? key = none) :
    (t ++ [(key, v)] : Table).put key w = t ++ [(key, w)] := by
  simp only [Table.get?, Option.map_eq_none_iff, List.find?_eq_none, decide_eq_true_eq] at h
  have hmap : t.map (fun e => if e.1 = key then (key, w) else e) = t := by
    rw [List.map_congr_left fun e he => if_neg (h e he), List.map_id']
  simp [Table.put, hmap]

namespace Document

variable {t u : Table} {path : List String} {key : String}

theorem apply_header (h : t.get? name = none) :
    apply ⟨path, t⟩ (.header ⟨[], name⟩) = some ⟨[name], t ++ [(name, .table .header [])]⟩ := by
  simp [apply, Table.openTable, Table.descend, h, Key.path]

/-- An entry under a header goes to the end of the table that the header opened last. -/
theorem apply_entry (h : t.get? name = none) (hkey : u.get? key = none) {e : Expr} {v : Value}
    (hv : e.value? = some v) :
    apply ⟨[name], t ++ [(name, .table .header u)]⟩ (.entry ⟨[], key⟩ e) =
      some ⟨[name], t ++ [(name, .table .header (u ++ [(key, v)]))]⟩ := by
  have hget : (t ++ [(name, .table .header u)] : Table).get? name = some (.table .header u) := by
    rw [Table.get?_append, h]
    simp [Table.get?]
  simp [apply, hv, Table.define, Table.descend, hget, hkey, Table.put_append_last h]

def tableStatements (name : String) (bindings : List (String × Expr)) : List Statement :=
  .header ⟨[], name⟩ :: bindings.map fun b => .entry ⟨[], b.1⟩ b.2

/-- The entries of a table are its bindings with their values. -/
def Gives (bindings : List (String × Expr)) (entries : Table) : Prop :=
  (bindings.map fun b => (b.1, b.2.value?)) = entries.map fun e => (e.1, some e.2)

theorem foldlM_entries (h : t.get? name = none) {bindings : List (String × Expr)}
    {entries : Table} (hgives : Gives bindings entries) (u : Table)
    (hkeys : ((u ++ entries).map (·.1)).Nodup) :
    (bindings.map fun b => Statement.entry ⟨[], b.1⟩ b.2).foldlM apply
        ⟨[name], t ++ [(name, .table .header u)]⟩ =
      some ⟨[name], t ++ [(name, .table .header (u ++ entries))]⟩ := by
  induction entries generalizing bindings u with
  | nil =>
    obtain rfl := List.map_eq_nil_iff.mp hgives
    simp
  | cons e entries ih =>
    obtain ⟨b, bindings, rfl, hb, hgives⟩ := List.map_eq_cons_iff.mp hgives
    obtain ⟨hkey, hv⟩ := Prod.mk.inj hb
    have hfresh : u.get? e.1 = none := by
      simp only [Table.get?, Option.map_eq_none_iff, List.find?_eq_none, decide_eq_true_eq]
      intro d hd heq
      rw [List.map_append, List.nodup_append] at hkeys
      exact hkeys.2.2 d.1 (List.mem_map_of_mem hd) e.1 (by simp) heq
    rw [List.map_cons, List.foldlM_cons, hkey, apply_entry h hfresh hv, Option.bind_eq_bind,
      Option.bind_some, ih hgives (u ++ [e]) (by simpa using hkeys)]
    simp

/-- A header with its entries puts a new table at the end. -/
theorem foldlM_tableStatements (h : t.get? name = none) {bindings : List (String × Expr)}
    {entries : Table} (hgives : Gives bindings entries) (hkeys : (entries.map (·.1)).Nodup) :
    (tableStatements name bindings).foldlM apply ⟨path, t⟩ =
      some ⟨[name], t ++ [(name, .table .header entries)]⟩ := by
  rw [tableStatements, List.foldlM_cons, apply_header h, Option.bind_eq_bind, Option.bind_some,
    foldlM_entries h hgives [] (by simpa using hkeys), List.nil_append]

end Document

end GadgetModes.Toml
