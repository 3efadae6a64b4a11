import GadgetModes.Mode.Description
import GadgetModes.Proofs.KeyFile.LineReading

/-!
# Mode descriptions line by line

The fields of a mode description read off its lines (`lineFields`), with one key for
each field: the last line with the key counts, inside the first block of the name. The
record that a text describes is the record of these fields.
-/

namespace GadgetModes

open GadgetModes.Text

/-! ## Values -/

namespace KeyFile

def Line.pair? (line : List Char) : Option (String × String) :=
  (Line.item? line).bind Item.pair?

theorem entriesOf_itemsOf (lines : List (List Char)) :
    entriesOf (itemsOf lines) = (lines.takeWhile (!Line.isHeader ·)).filterMap Line.pair? := by
  induction lines with
  | nil => rfl
  | cons line lines ih =>
      rw [itemsOf, List.filterMap_cons, List.takeWhile_cons]
      cases hi : Line.item? line with
      | none =>
          simp only [Line.isHeader, hi, Bool.not_false, if_true]
          rw [List.filterMap_cons_none (by simp [Line.pair?, hi])]
          exact ih
      | some item =>
          cases item with
          | header name => simp [Line.isHeader, hi, entriesOf]
          | entry key value =>
              simp only [Line.isHeader, hi, Bool.not_false, if_true, entriesOf]
              rw [List.filterMap_cons_some (b := (key, value))
                (by simp [Line.pair?, hi, Item.pair?])]
              exact congrArg _ ih

theorem blockOf_itemsOf (name : String) (lines : List (List Char)) :
    blockOf name (itemsOf lines) = (blockLines name lines).filterMap Line.pair? := by
  induction lines with
  | nil => rfl
  | cons line lines ih =>
      have hskip : Line.item? line ≠ some (.header name) →
          blockLines name (line :: lines) = blockLines name lines := by
        intro hne
        rw [blockLines, List.dropWhile_cons_of_pos (by simpa using hne), blockLines]
      rw [itemsOf, List.filterMap_cons]
      cases hi : Line.item? line with
      | none =>
          rw [hskip (by simp [hi])]
          exact ih
      | some item =>
          cases item with
          | header n =>
              by_cases hn : n = name
              · subst hn
                have hblock : blockLines n (line :: lines) =
                    lines.takeWhile (!Line.isHeader ·) := by
                  rw [blockLines, List.dropWhile_cons_of_neg (by simp [hi])]
                  rfl
                rw [hblock, ← entriesOf_itemsOf]
                simp [blockOf, itemsOf]
              · rw [hskip (by simpa [hi] using hn)]
                simp only [blockOf, if_neg hn]
                exact ih
          | entry key value =>
              rw [hskip (by simp [hi])]
              exact ih

/-- Reading a value off the items and reading it off the lines is the same. -/
theorem value?_itemsOf (lines : List (List Char)) (name key : String) :
    value? ⟨itemsOf lines⟩ name key = lineValue? lines name key := by
  have hvalues : ∀ block : List (List Char),
      ((block.filterMap Line.pair?).filter (·.1 = key)).map (·.2) =
        block.filterMap (Line.valueFor? key) := by
    intro block
    rw [← List.filterMap_eq_filter, List.filterMap_filterMap, List.map_filterMap]
    refine List.filterMap_congr fun line _ => ?_
    rw [Line.pair?, Line.valueFor?]
    cases Line.item? line with
    | none => rfl
    | some item =>
        cases item with
        | header n => rfl
        | entry k v => by_cases h : k = key <;> simp [Item.pair?, Option.guard, h]
  rw [value?, block, blockOf_itemsOf, ← List.getLast?_map, hvalues, List.getLast?_filterMap,
    lineValue?]

theorem trimmed_lineValue {lines : List (List Char)} {name key value : String}
    (h : lineValue? lines name key = some value) : trimmed value = value := by
  obtain ⟨line, -, hline⟩ := List.exists_of_findSome?_eq_some h
  rw [Line.valueFor?] at hline
  split at hline
  · next k v hitem =>
    rw [Line.item?] at hitem
    split at hitem
    · cases hitem
    · cases hitem
    · split at hitem
      · cases hitem
      · cases hitem
        split at hline
        · obtain rfl := Option.some.inj hline
          simp [trimmed, trim_trim]
        · cases hline
  · cases hline

end KeyFile

/-! ## Fields -/

namespace Mode

open KeyFile

/-- The text that lines give a key of a block; an empty one counts as absent. -/
def lineText? (lines : List (List Char)) (block key : String) : Option String :=
  (lineValue? lines block key).filter (· ≠ "")

/-- The flag that lines give a key of a block: on if the value is a 64-bit integer other
than zero. -/
def lineFlag (lines : List (List Char)) (block key : String) : Bool :=
  (lineValue? lines block key).any fun value => (readSigned64 value.toList).any (· ≠ 0)

def lineExtraSysfs (lines : List (List Char)) : Vector ExtraWrite extraSlots :=
  #v[⟨lineText? lines "options" "android_extra_sysfs_path",
      lineText? lines "options" "android_extra_sysfs_value"⟩,
    ⟨lineText? lines "options" "android_extra_sysfs_path2",
      lineText? lines "options" "android_extra_sysfs_value2"⟩,
    ⟨lineText? lines "options" "android_extra_sysfs_path3",
      lineText? lines "options" "android_extra_sysfs_value3"⟩,
    ⟨lineText? lines "options" "android_extra_sysfs_path4",
      lineText? lines "options" "android_extra_sysfs_value4"⟩]

def lineFields (options : Options) (lines : List (List Char)) : Fields where
  name := lineText? lines "mode" "name"
  module := lineText? lines "mode" "module"
  appsync := lineFlag lines "mode" "appsync"
  massStorage := lineFlag lines "mode" "mass_storage"
  network := lineFlag lines "mode" "network"
  networkInterface := lineText? lines "mode" "network_interface"
  sysfsPath := lineText? lines "options" "sysfs_path"
  sysfsValue := lineText? lines "options" "sysfs_value"
  sysfsResetValue := lineText? lines "options" "sysfs_reset_value"
  extraSysfs := lineExtraSysfs lines
  idProduct := lineText? lines "options" "idProduct"
  idVendorOverride := lineText? lines "options" "idVendorOverride"
  nat := lineFlag lines "options" "nat"
  dhcpServer := lineFlag lines "options" "dhcp_server"
  tetheringTechnology :=
    if options.tethering then lineText? lines "options" "connman_tethering" else none

theorem text?_itemsOf (lines : List (List Char)) (block : Block) (key : String) :
    Description.text? ⟨itemsOf lines⟩ block key = lineText? lines block.name key := by
  rw [Description.text?, value?_itemsOf, lineText?]
  cases h : lineValue? lines block.name key with
  | none => rfl
  | some value => rw [Option.map_some, trimmed_lineValue h]

theorem flag_itemsOf (lines : List (List Char)) (block : Block) (key : String) :
    Description.flag ⟨itemsOf lines⟩ block key = lineFlag lines block.name key := by
  rw [Description.flag, value?_itemsOf, lineFlag]
  cases h : lineValue? lines block.name key with
  | none => rfl
  | some value =>
      have htrim : trim value.toList = value.toList := by
        rw [← String.toList_ofList (l := trim value.toList), ← trimmed, trimmed_lineValue h]
      rw [Option.any_some, Option.any_some, Description.isSet, htrim]

theorem extraSysfs_itemsOf (lines : List (List Char)) :
    Description.extraSysfs ⟨itemsOf lines⟩ = lineExtraSysfs lines := by
  have hkey : ∀ base : String, Description.slotKey base 0 = base
      ∧ Description.slotKey base 1 = base ++ "2" ∧ Description.slotKey base 2 = base ++ "3"
      ∧ Description.slotKey base 3 = base ++ "4" := fun base => ⟨rfl, rfl, rfl, rfl⟩
  ext i hi : 1
  match i, hi with
  | 0, _ => simp [Description.extraSysfs, lineExtraSysfs, text?_itemsOf, hkey, Block.name]
  | 1, _ => simp [Description.extraSysfs, lineExtraSysfs, text?_itemsOf, hkey, Block.name]
  | 2, _ => simp [Description.extraSysfs, lineExtraSysfs, text?_itemsOf, hkey, Block.name]
  | 3, _ => simp [Description.extraSysfs, lineExtraSysfs, text?_itemsOf, hkey, Block.name]

theorem fields_itemsOf (options : Options) (lines : List (List Char)) :
    Description.fields options ⟨itemsOf lines⟩ = lineFields options lines := by
  simp only [Description.fields, lineFields, text?_itemsOf, flag_itemsOf,
    extraSysfs_itemsOf, Block.name]

/-- **A description says what its lines say.** -/
theorem ofText_eq_ofFields (options : Options) (source content : String)
    (hlines : ∀ line ∈ linesOf content.toList, Line.Regular line ∧ '\r' ∉ line)
    (hlead : leadsReadable false (linesOf content.toList) = true) :
    Record.ofText options source content =
      Record.ofFields source (lineFields options (linesOf content.toList)) := by
  rw [Record.ofText, Description.ofText, read_eq_items hlines hlead, ← fields_itemsOf]
  rfl

/-- A text with every kind of line and both endings, a key twice and a block twice. -/
def mixedText : String :=
  "; modes\r\n[mode]\nname=a\nmodule = b\r\nmodule: c \n\x0b\n  [mode] \nname=z"

theorem mixedText_lines : linesOf mixedText.toList =
    [[';', ' ', 'm', 'o', 'd', 'e', 's'], ['[', 'm', 'o', 'd', 'e', ']'],
      ['n', 'a', 'm', 'e', '=', 'a'], ['m', 'o', 'd', 'u', 'l', 'e', ' ', '=', ' ', 'b'],
      ['m', 'o', 'd', 'u', 'l', 'e', ':', ' ', 'c', ' '], ['\x0b'],
      [' ', ' ', '[', 'm', 'o', 'd', 'e', ']', ' '], ['n', 'a', 'm', 'e', '=', 'z']] := by
  decide

theorem ofText_mixedText :
    (∀ line ∈ linesOf mixedText.toList, Line.Regular line ∧ '\r' ∉ line)
      ∧ leadsReadable false (linesOf mixedText.toList) = true
      ∧ Record.ofText {} "a.ini" mixedText =
        Record.ofFields "a.ini" { name := some "a", module := some "c" } := by
  have hmode : trim ['m', 'o', 'd', 'e'] = ['m', 'o', 'd', 'e'] := by decide
  have hlines : ∀ line ∈ linesOf mixedText.toList, Line.Regular line ∧ '\r' ∉ line := by
    rw [mixedText_lines]
    simp only [List.forall_mem_cons]
    refine ⟨⟨.comment (Or.inl rfl), by decide⟩,
      ⟨@Line.Regular.header [] ['m', 'o', 'd', 'e'] [] (by decide) (by simp) hmode
        (by decide), by decide⟩,
      ⟨@Line.Regular.entry [] ['a', 'm', 'e'] ['a'] 'n' '=' (by decide)
        (by decide) (by decide) (by simp [Line.isSeparator]) (by decide) (by decide), by decide⟩,
      ⟨@Line.Regular.entry [] ['o', 'd', 'u', 'l', 'e', ' '] [' ', 'b'] 'm' '=' (by decide)
        (by decide) (by decide) (by simp [Line.isSeparator]) (by decide) (by decide), by decide⟩,
      ⟨@Line.Regular.entry [] ['o', 'd', 'u', 'l', 'e'] [' ', 'c', ' '] 'm' ':' (by decide)
        (by decide) (by decide) (by simp [Line.isSeparator]) (by decide) (by decide), by decide⟩,
      ⟨.blank (by decide), by decide⟩,
      ⟨@Line.Regular.header [' ', ' '] ['m', 'o', 'd', 'e'] [' '] (by decide) (by simp) hmode
        (by decide), by decide⟩,
      ⟨@Line.Regular.entry [] ['a', 'm', 'e'] ['z'] 'n' '=' (by decide)
        (by decide) (by decide) (by simp [Line.isSeparator]) (by decide) (by decide), by decide⟩,
      by simp⟩
  have hlead : leadsReadable false (linesOf mixedText.toList) = true := by decide
  have hfields : lineFields {} (linesOf mixedText.toList) =
      { name := some "a", module := some "c" } := by decide
  exact ⟨hlines, hlead, hfields ▸ ofText_eq_ofFields {} "a.ini" mixedText hlines hlead⟩

/-- A text that starts with a line of one blank, neither a space nor a tab. -/
def oddBlankText : String :=
  "\x0b\n[mode]\nname=a\nmodule=b"

/-- The blank is read as the start of a key, which takes the header with it. -/
theorem read_oddBlankText : KeyFile.read oddBlankText =
    .ok ⟨[.entry "[mode]\nname" "a", .entry "module" "b"]⟩ := by
  decide +kernel

/-- Not every description says what its lines say: blanks alone on a line can matter. -/
theorem not_ofText_eq_ofFields_of_regular :
    ¬∀ (options : Options) (source content : String),
      (∀ line ∈ linesOf content.toList, Line.Regular line ∧ '\r' ∉ line) →
        Record.ofText options source content =
          Record.ofFields source (lineFields options (linesOf content.toList)) := by
  intro h
  have hsplit : linesOf oddBlankText.toList =
      [['\x0b'], ['[', 'm', 'o', 'd', 'e', ']'], ['n', 'a', 'm', 'e', '=', 'a'],
        ['m', 'o', 'd', 'u', 'l', 'e', '=', 'b']] := by decide
  have hlines : ∀ line ∈ linesOf oddBlankText.toList, Line.Regular line ∧ '\r' ∉ line := by
    rw [hsplit]
    simp only [List.forall_mem_cons]
    exact ⟨⟨.blank (by decide), by decide⟩,
      ⟨@Line.Regular.header [] ['m', 'o', 'd', 'e'] [] (by decide) (by simp) (by decide)
        (by decide), by decide⟩,
      ⟨@Line.Regular.entry [] ['a', 'm', 'e'] ['a'] 'n' '=' (by decide)
        (by decide) (by decide) (by simp [Line.isSeparator]) (by decide) (by decide), by decide⟩,
      ⟨@Line.Regular.entry [] ['o', 'd', 'u', 'l', 'e'] ['b'] 'm' '=' (by decide)
        (by decide) (by decide) (by simp [Line.isSeparator]) (by decide) (by decide), by decide⟩,
      by simp⟩
  have hfields : lineFields {} (linesOf oddBlankText.toList) =
      { name := some "a", module := some "b" } := by decide
  have hread : Description.ofText {} oddBlankText = .ok {} := by
    rw [Description.ofText, read_oddBlankText]
    decide
  have heq := h {} "a.ini" oddBlankText hlines
  rw [hfields, Record.ofText, hread] at heq
  cases heq

end Mode

end GadgetModes
