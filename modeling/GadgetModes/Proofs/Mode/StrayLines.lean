import GadgetModes.Proofs.KeyFile.StrayLines
import GadgetModes.Proofs.Mode.LineFields
import GadgetModes.Proofs.Mode.RoundTrip

/-!
# Mode descriptions with a stray line

A stray line in a mode description is not noticed if a separator follows on a later line. The
description then says what it says without the lines up to there (`ofText_of_strayed`), so an
entry or a header among them is lost without a rejection
(`not_ofText_of_strayed_of_accepted`).
-/

namespace GadgetModes

/-! ## Entries that do not matter -/

namespace KeyFile

variable {name sought key value : String} {xs ys : List Item}

theorem filter_entriesOf_insert (h : key ≠ sought) :
    (entriesOf (xs ++ .entry key value :: ys)).filter (·.1 = sought) =
      (entriesOf (xs ++ ys)).filter (·.1 = sought) := by
  induction xs with
  | nil => simp [entriesOf, h]
  | cons item xs ih =>
      cases item with
      | header n => rfl
      | entry k v => simp only [List.cons_append, entriesOf, List.filter_cons, ih]

theorem filter_blockOf_insert (h : key ≠ sought) :
    (blockOf name (xs ++ .entry key value :: ys)).filter (·.1 = sought) =
      (blockOf name (xs ++ ys)).filter (·.1 = sought) := by
  induction xs with
  | nil => simp [blockOf]
  | cons item xs ih =>
      cases item with
      | header n =>
          simp only [List.cons_append, blockOf]
          split
          · exact filter_entriesOf_insert h
          · exact ih
      | entry k v => simpa only [List.cons_append, blockOf] using ih

/-- An entry with another key does not change what is found under a key. -/
theorem value?_insert (h : key ≠ sought) :
    value? ⟨xs ++ .entry key value :: ys⟩ name sought = value? ⟨xs ++ ys⟩ name sought := by
  rw [value?, block, filter_blockOf_insert h, value?, block]

theorem entriesOf_of_pair?_eq_none (h : ∀ item ∈ ys, item.pair? = none) : entriesOf ys = [] := by
  cases ys with
  | nil => rfl
  | cons item ys =>
      cases item with
      | header n => rfl
      | entry k v => cases h _ (List.mem_cons_self ..)

theorem entriesOf_append_of_pair?_eq_none (h : ∀ item ∈ ys, item.pair? = none) :
    entriesOf (xs ++ ys) = entriesOf xs := by
  induction xs with
  | nil => exact entriesOf_of_pair?_eq_none h
  | cons item xs ih =>
      cases item with
      | header n => rfl
      | entry k v => simp only [List.cons_append, entriesOf, ih]

theorem blockOf_of_pair?_eq_none (h : ∀ item ∈ ys, item.pair? = none) : blockOf name ys = [] := by
  induction ys with
  | nil => rfl
  | cons item ys ih =>
      have hrest : ∀ item ∈ ys, item.pair? = none := fun i hi => h i (List.mem_cons_of_mem _ hi)
      cases item with
      | header n =>
          simp only [blockOf, ih hrest, entriesOf_of_pair?_eq_none hrest, ite_self]
      | entry k v => cases h _ (List.mem_cons_self ..)

/-- Headers at the end open blocks without entries. -/
theorem blockOf_append_of_pair?_eq_none (h : ∀ item ∈ ys, item.pair? = none) :
    blockOf name (xs ++ ys) = blockOf name xs := by
  induction xs with
  | nil => exact blockOf_of_pair?_eq_none h
  | cons item xs ih =>
      cases item with
      | header n =>
          simp only [List.cons_append, blockOf, ih, entriesOf_append_of_pair?_eq_none h]
      | entry k v => simpa only [List.cons_append, blockOf] using ih

end KeyFile

namespace Mode

open KeyFile

variable {options : Options} {source content altered : String}
variable {before after lines : List (List Char)} {stray : List Char}

/-- Only what is found under the keys of the blocks matters. -/
theorem fields_congr {f g : KeyFile}
    (h : ∀ block : Block, ∀ key ∈ block.keys, f.value? block.name key = g.value? block.name key) :
    Description.fields options f = Description.fields options g := by
  have htext : ∀ block : Block, ∀ key ∈ block.keys,
      Description.text? f block key = Description.text? g block key := fun block key hkey => by
    rw [Description.text?, h block key hkey, Description.text?]
  have hflag : ∀ block : Block, ∀ key ∈ block.keys,
      Description.flag f block key = Description.flag g block key := fun block key hkey => by
    rw [Description.flag, h block key hkey, Description.flag]
  have hslots : ∀ slot : Fin extraSlots,
      Description.slotKey "android_extra_sysfs_path" slot ∈ Block.options.keys
        ∧ Description.slotKey "android_extra_sysfs_value" slot ∈ Block.options.keys := by
    decide +kernel
  have hextra : Description.extraSysfs f = Description.extraSysfs g := by
    refine congrArg Vector.ofFn (funext fun slot => ?_)
    rw [htext .options _ (hslots slot).1, htext .options _ (hslots slot).2]
  have hmode := htext .mode
  have hoptions := htext .options
  have hmodeFlag := hflag .mode
  have hoptionsFlag := hflag .options
  simp only [Block.keys, List.forall_mem_cons] at hmode hoptions hmodeFlag hoptionsFlag
  simp only [Description.fields, hmode, hoptions, hmodeFlag, hoptionsFlag, hextra]

/-- An entry with a key over several lines says nothing. -/
theorem fields_insert {key value : String} (hfeed : '\n' ∈ key.toList) (xs ys : List Item) :
    Description.fields options ⟨xs ++ .entry key value :: ys⟩ =
      Description.fields options ⟨xs ++ ys⟩ := by
  refine fields_congr fun block sought hsought => value?_insert ?_
  rintro rfl
  exact (block.literal_keys key hsought).ends.1 hfeed

/-- Headers without entries at the end say nothing. -/
theorem fields_append {xs ys : List Item} (h : ∀ item ∈ ys, item.pair? = none) :
    Description.fields options ⟨xs ++ ys⟩ = Description.fields options ⟨xs⟩ := by
  refine fields_congr fun block key _ => ?_
  rw [value?, KeyFile.block, blockOf_append_of_pair?_eq_none h, value?, KeyFile.block]

theorem ofText_of_read {file : KeyFile} (hread : KeyFile.read content = .ok file)
    (hfields : Description.fields options file = lineFields options lines) :
    Record.ofText options source content = Record.ofFields source (lineFields options lines) := by
  rw [Record.ofText, Description.ofText, hread, ← hfields]
  rfl

theorem pair?_eq_none_of_noSeparator (hlines : ∀ line ∈ lines, Line.Literal line)
    (hnone : lines.any Line.hasSeparator = false) : ∀ item ∈ itemsOf lines, item.pair? = none := by
  intro item hitem
  obtain ⟨line, hline, hitem⟩ := List.mem_filterMap.mp hitem
  have hno := List.any_eq_false.mp hnone line hline
  cases (hlines line hline).regular with
  | blank hblank => rw [Line.item?_blank hblank] at hitem; cases hitem
  | comment hmark => rw [Line.item?_comment hmark] at hitem; cases hitem
  | header hbefore hname =>
      rw [Line.item?_header hbefore hname] at hitem
      exact Option.some.inj hitem ▸ rfl
  | entry _ _ _ _ hseparator => simp [Line.hasSeparator, hseparator] at hno

theorem ofText_content (h : Strayed before stray after content altered) :
    Record.ofText options source content =
      Record.ofFields source (lineFields options (before ++ after)) :=
  ofText_of_read h.read_content (fields_itemsOf options _)

/-- What a description with a stray line comes to: it is malformed, it has lost lines, or it ends
with the stray line and has lost nothing. -/
theorem ofText_altered_cases (options : Options) (source : String)
    (h : Strayed before stray after content altered) :
    (∃ fault, Record.ofText options source altered = .error (.unreadable (.malformed fault))
        ∧ (Line.isMarked stray = true ∧ fault.defect = .inlineComment
          ∨ after.any Line.hasSeparator = false ∧ fault.defect = .unended .separator))
      ∨ (after.any Line.hasSeparator = true ∧ Record.ofText options source altered =
        Record.ofFields source (lineFields options (before ++ sparedLines after)))
      ∨ (after.any Line.hasSeparator = false ∧ stray.head?.any isIndent = true
        ∧ Record.ofText options source altered = Record.ofText options source content) := by
  rcases h.read_cases with ⟨fault, hread, hcause⟩ | ⟨hsome, key, value, hfeed, hread⟩ |
    ⟨hnone, hindent, hread⟩
  · refine .inl ⟨fault, ?_, hcause⟩
    rw [Record.ofText, Description.ofText, hread]
    rfl
  · refine .inr (.inl ⟨hsome, ofText_of_read hread ?_⟩)
    rw [fields_insert hfeed, ← itemsOf_append, fields_itemsOf]
  · refine .inr (.inr ⟨hnone, hindent, ?_⟩)
    have hliteral : ∀ line ∈ after, Line.Literal line :=
      fun line hline => h.literal line (List.mem_append_right _ hline)
    rw [ofText_content h]
    refine ofText_of_read hread ?_
    rw [← fields_itemsOf, itemsOf_append,
      fields_append (pair?_eq_none_of_noSeparator hliteral hnone)]

/-- Only a stray line with a comment mark is noticed in front of a separator. -/
theorem ofText_lost (h : Strayed before stray after content altered)
    (hmark : Line.isMarked stray = false) (hsome : after.any Line.hasSeparator = true) :
    Record.ofText options source altered =
      Record.ofFields source (lineFields options (before ++ sparedLines after)) := by
  rcases ofText_altered_cases options source h with
    ⟨-, -, ⟨hmark', -⟩ | ⟨hnone, -⟩⟩ | ⟨-, haltered⟩ | ⟨hnone, -⟩
  · rw [hmark] at hmark'
    cases hmark'
  · rw [hsome] at hnone
    cases hnone
  · exact haltered
  · rw [hsome] at hnone
    cases hnone

/-- Lines that say nothing are not missed. -/
theorem lineFields_sparedLines (hlost : ∀ line ∈ lostLines after, Line.item? line = none) :
    lineFields options (before ++ sparedLines after) = lineFields options (before ++ after) := by
  have hsilent : itemsOf (lostLines after) = [] := List.filterMap_eq_nil_iff.mpr hlost
  have hitems : itemsOf (before ++ sparedLines after) = itemsOf (before ++ after) :=
    calc
      itemsOf (before ++ sparedLines after)
          = itemsOf (before ++ (lostLines after ++ sparedLines after)) := by
            simp only [itemsOf_append, hsilent, List.nil_append]
        _ = itemsOf (before ++ after) := by rw [lostLines_append_sparedLines]
  rw [← fields_itemsOf, hitems, fields_itemsOf]

/--
What becomes of a description with a stray line. It may be rejected as malformed, for a comment
mark that does not start its line or for a key that does not end. If it is not, and a separator
follows on a later line, it says what it says without the lines up to there. If none follows, it
ends with the stray line, and nothing is lost.

So a description that is accepted gives the same record as without the stray line, provided that
no entry and no header is among the lines up to the next separator.
-/
theorem ofText_of_strayed (options : Options) (source : String)
    (h : Strayed before stray after content altered) :
    ((∃ fault, Record.ofText options source altered = .error (.unreadable (.malformed fault))
          ∧ (Line.isMarked stray = true ∧ fault.defect = .inlineComment
            ∨ after.any Line.hasSeparator = false ∧ fault.defect = .unended .separator))
        ∨ (after.any Line.hasSeparator = true ∧ Record.ofText options source altered =
          Record.ofFields source (lineFields options (before ++ sparedLines after)))
        ∨ (after.any Line.hasSeparator = false ∧ stray.head?.any isIndent = true
          ∧ Record.ofText options source altered = Record.ofText options source content))
      ∧ ((after.any Line.hasSeparator = true → ∀ line ∈ lostLines after, Line.item? line = none) →
        ∀ record, Record.ofText options source altered = .ok record →
          Record.ofText options source content = .ok record) := by
  have hcases := ofText_altered_cases options source h
  refine ⟨hcases, fun hlost record hrecord => ?_⟩
  rcases hcases with ⟨fault, hrejected, -⟩ | ⟨hsome, haltered⟩ | ⟨-, -, hsame⟩
  · rw [hrejected] at hrecord
    cases hrecord
  · rw [ofText_content h, ← lineFields_sparedLines (hlost hsome), ← haltered]
    exact hrecord
  · rwa [hsame] at hrecord

def modeLines : List (List Char) :=
  [['[', 'm', 'o', 'd', 'e', ']'], ['n', 'a', 'm', 'e', '=', 'a'],
    ['m', 'o', 'd', 'u', 'l', 'e', '=', 'b']]

/-- The line of a flag, and the end of the text. -/
def flagLines : List (List Char) :=
  [['a', 'p', 'p', 's', 'y', 'n', 'c', '=', '1'], []]

theorem literal_modeLines_append_flagLines :
    ∀ line ∈ modeLines ++ flagLines, Line.Literal line := by
  have hregular : ∀ line ∈ modeLines ++ flagLines, Line.Regular line := by
    simp only [modeLines, flagLines, List.cons_append, List.nil_append, List.forall_mem_cons]
    exact ⟨@Line.Regular.header [] ['m', 'o', 'd', 'e'] [] (by decide) (by simp) (by decide)
        (by decide),
      @Line.Regular.entry [] ['a', 'm', 'e'] ['a'] 'n' '=' (by decide) (by decide) (by decide)
        (by simp [Line.isSeparator]) (by decide) (by decide),
      @Line.Regular.entry [] ['o', 'd', 'u', 'l', 'e'] ['b'] 'm' '=' (by decide) (by decide)
        (by decide) (by simp [Line.isSeparator]) (by decide) (by decide),
      @Line.Regular.entry [] ['p', 'p', 's', 'y', 'n', 'c'] ['1'] 'a' '=' (by decide)
        (by decide) (by decide) (by simp [Line.isSeparator]) (by decide) (by decide),
      .blank (by decide), by simp⟩
  have hchars : ∀ line ∈ modeLines ++ flagLines,
      line.all (!isLineEnd ·) = true ∧ '\\' ∉ line := by decide
  exact fun line hline => ⟨hregular line hline, by
    simpa [Unbroken] using (hchars line hline).1, (hchars line hline).2⟩

theorem stray_foo : Line.Stray ['f', 'o', 'o'] :=
  ⟨by decide, by decide, by decide, by simp [Line.isSeparator]⟩

/-- A stray line takes a comment with it, and with that nothing that counts. -/
theorem ofText_of_strayed_comment :
    Strayed modeLines ['f', 'o', 'o'] ([';', ' ', 'a', ':', 'b'] :: flagLines)
        "[mode]\nname=a\nmodule=b\n; a:b\nappsync=1\n"
        "[mode]\nname=a\nmodule=b\nfoo\n; a:b\nappsync=1\n"
      ∧ (∀ line ∈ lostLines ([';', ' ', 'a', ':', 'b'] :: flagLines), Line.item? line = none)
      ∧ ∃ record : Record,
          record.fields = { name := some "a", module := some "b", appsync := true }
          ∧ Record.ofText {} "a.ini" "[mode]\nname=a\nmodule=b\nfoo\n; a:b\nappsync=1\n" =
            .ok record
          ∧ Record.ofText {} "a.ini" "[mode]\nname=a\nmodule=b\n; a:b\nappsync=1\n" =
            .ok record := by
  have hliteral : ∀ line ∈ modeLines ++ [';', ' ', 'a', ':', 'b'] :: flagLines,
      Line.Literal line := by
    have hlines := literal_modeLines_append_flagLines
    simp only [List.forall_mem_append, List.forall_mem_cons] at hlines ⊢
    exact ⟨hlines.1, ⟨.comment (.inl rfl), by simp [Unbroken, isLineEnd], by decide⟩, hlines.2⟩
  have hstrayed : Strayed modeLines ['f', 'o', 'o'] ([';', ' ', 'a', ':', 'b'] :: flagLines)
      "[mode]\nname=a\nmodule=b\n; a:b\nappsync=1\n"
      "[mode]\nname=a\nmodule=b\nfoo\n; a:b\nappsync=1\n" :=
    ⟨by decide, by decide, hliteral, by decide, by decide, stray_foo, by decide⟩
  have hlost : ∀ line ∈ lostLines ([';', ' ', 'a', ':', 'b'] :: flagLines),
      Line.item? line = none := by decide
  have hrecord : Record.ofText {} "a.ini" "[mode]\nname=a\nmodule=b\nfoo\n; a:b\nappsync=1\n" = _ :=
    ofText_lost hstrayed (by decide) (by decide)
  have hfields : lineFields {} (modeLines ++ sparedLines ([';', ' ', 'a', ':', 'b'] :: flagLines)) =
      { name := some "a", module := some "b", appsync := true } := by decide
  rw [hfields] at hrecord
  exact ⟨hstrayed, hlost, _, rfl, hrecord,
    (ofText_of_strayed {} "a.ini" hstrayed).2 (fun _ => hlost) _ hrecord⟩

/-- Not every description with a stray line is rejected or left as it is: the line can take a
flag with it. -/
theorem not_ofText_of_strayed_of_accepted :
    ¬∀ (options : Options) (source : String) (before : List (List Char)) (stray : List Char)
      (after : List (List Char)) (content altered : String),
      Strayed before stray after content altered →
        ∀ record, Record.ofText options source altered = .ok record →
          ∃ same, Record.ofText options source content = .ok same
            ∧ record.fields = same.fields := by
  intro h
  have hstrayed : Strayed modeLines ['f', 'o', 'o'] flagLines
      "[mode]\nname=a\nmodule=b\nappsync=1\n" "[mode]\nname=a\nmodule=b\nfoo\nappsync=1\n" :=
    ⟨by decide, by decide, literal_modeLines_append_flagLines, by decide, by decide, stray_foo,
      by decide⟩
  have hcontent : Record.ofText {} "a.ini" "[mode]\nname=a\nmodule=b\nappsync=1\n" =
      Record.ofFields "a.ini" { name := some "a", module := some "b", appsync := true } := by
    have hfields : lineFields {} (modeLines ++ flagLines) =
        { name := some "a", module := some "b", appsync := true } := by decide
    rw [ofText_content hstrayed, hfields]
  have haltered : Record.ofText {} "a.ini" "[mode]\nname=a\nmodule=b\nfoo\nappsync=1\n" =
      Record.ofFields "a.ini" { name := some "a", module := some "b" } := by
    have hfields : lineFields {} (modeLines ++ sparedLines flagLines) =
        { name := some "a", module := some "b" } := by decide
    rw [ofText_lost hstrayed (by decide) (by decide), hfields]
  obtain ⟨same, hsame, hfields⟩ := h {} "a.ini" _ _ _ _ _ hstrayed _ haltered
  obtain rfl := Except.ok.inj (hcontent.symm.trans hsame)
  exact absurd hfields (by decide)

end Mode

end GadgetModes
