import Mathlib.Algebra.Group.Nat.Even
import GadgetModes.Proofs.KeyFile.LineReading

/-!
# Printing key files

A key file printed with a line for each item reads as these items again
(`read_printed`). Quotes, comment marks, brackets and separators stand for themselves in a
value, wherever in it they are. Backslashes do not quite: at the end of a line they have to
stand in pairs, since one that is left over joins the line to the next.
-/

namespace GadgetModes.KeyFile

open GadgetModes.Text

/-! ## Backslashes at the end -/

/-- How many backslashes a text ends in. -/
def backslashes (cs : List Char) : Nat :=
  (cs.reverse.takeWhile (· = '\\')).length

theorem backslashes_cons (c : Char) (cs : List Char) :
    backslashes (c :: cs) =
      if backslashes cs = cs.length ∧ c = '\\' then cs.length + 1 else backslashes cs := by
  simp only [backslashes, List.reverse_cons, List.takeWhile_append, List.length_reverse]
  by_cases hall : (cs.reverse.takeWhile (· = '\\')).length = cs.length
  · by_cases hc : c = '\\' <;> simp [hall, hc]
  · simp [hall]

/-- The characters that backslashes keep come in pairs with them from the left, but it is
enough to count the backslashes at the right. -/
theorem paired_iff_even (cs : List Char) : paired cs = true ↔ Even (backslashes cs) := by
  fun_induction paired cs with
  | case1 => simp [backslashes]
  | case2 => simp [backslashes]
  | case3 c cs ih =>
      rw [ih, backslashes_cons, backslashes_cons, List.length_cons]
      -- The first two characters count only if backslashes alone follow, and then both or none do.
      by_cases hall : backslashes cs = cs.length
      · by_cases hc : c = '\\' <;> simp [hall, hc, Nat.even_add_one]
      · have hle : backslashes cs ≤ cs.length := by
          simpa [backslashes] using (cs.reverse.takeWhile_prefix (· = '\\')).length_le
        have hne : backslashes cs ≠ cs.length + 1 := by omega
        simp [hall, hne]
  | case4 c cs hnil hcons ih =>
      have hc : c ≠ '\\' := by
        rintro rfl
        cases cs with
        | nil => exact hnil rfl rfl
        | cons d ds => exact hcons d ds rfl rfl
      rw [ih, backslashes_cons, if_neg (fun h => hc h.2)]

/-! ## Lines of items -/

def Item.line : Item → String
  | header name => "[" ++ name ++ "]"
  | entry key value => key ++ "=" ++ value

/-- A key file as a text of one line for each item. -/
def printed (items : List Item) : String :=
  String.join (items.map (·.line ++ "\n"))

/-- A text on one line that has no blanks around it. -/
structure OneLine (text : String) : Prop where
  trimmed : trimmed text = text
  ends : '\n' ∉ text.toList ∧ '\r' ∉ text.toList

/-- A key that stands for itself. -/
structure LiteralKey (key : String) : Prop extends OneLine key where
  nonempty : key ≠ ""
  start : ∀ c ∈ key.toList.head?, isBlank c = false ∧ c ≠ '[' ∧ c ≠ ';' ∧ c ≠ '#'
  chars : ∀ c ∈ key.toList, Line.isSeparator c = false ∧ c ≠ '\\'

instance (text : String) : Decidable (OneLine text) :=
  decidable_of_iff (Text.trimmed text = text ∧ '\n' ∉ text.toList ∧ '\r' ∉ text.toList)
    ⟨fun h => ⟨h.1, h.2⟩, fun h => ⟨h.trimmed, h.ends⟩⟩

instance (key : String) : Decidable (LiteralKey key) :=
  decidable_of_iff
    (OneLine key ∧ key ≠ "" ∧
      key.toList.head?.all (fun c => !isBlank c && c != '[' && c != ';' && c != '#') = true ∧
      key.toList.all (fun c => !Line.isSeparator c && c != '\\') = true)
    ⟨fun ⟨hline, hne, hstart, hchars⟩ =>
        ⟨hline, hne, by simpa [Option.all_eq_true, and_assoc] using hstart,
          by simpa using hchars⟩,
      fun h =>
        ⟨h.toOneLine, h.nonempty, by simpa [Option.all_eq_true, and_assoc] using h.start,
          by simpa using h.chars⟩⟩

/-- The items that their line says as they are. -/
inductive Item.Literal : Item → Prop where
  | header {name : String} (hname : OneLine name)
      (hchars : ∀ c ∈ name.toList, c ≠ ']' ∧ c ≠ '\\') : Literal (.header name)
  | entry {key value : String} (hkey : LiteralKey key) (hvalue : OneLine value)
      (heven : Even (backslashes value.toList)) : Literal (.entry key value)

/-- A line that is read as it stands, from its first character on, and says an item. -/
structure Line.Tells (line : List Char) (item : Item) : Prop where
  whole : Line.Whole line
  unbroken : Unbroken line
  lead : ∀ c ∈ line.head?, isBlank c = false
  item? : Line.item? line = some item

theorem OneLine.trim {text : String} (h : OneLine text) : trim text.toList = text.toList := by
  rw [← String.toList_ofList (l := Text.trim text.toList), ← Text.trimmed, h.trimmed]

theorem OneLine.unbroken {text : String} (h : OneLine text) : Unbroken text.toList := by
  intro c hc
  have hfeed : c ≠ '\n' := fun heq => h.ends.1 (heq ▸ hc)
  have hreturn : c ≠ '\r' := fun heq => h.ends.2 (heq ▸ hc)
  simp [isLineEnd, hfeed, hreturn]

theorem tells_header {name : String} (hname : OneLine name)
    (hchars : ∀ c ∈ name.toList, c ≠ ']' ∧ c ≠ '\\') :
    Line.Tells (Item.line (.header name)).toList (.header name) := by
  have hline : (Item.line (.header name)).toList = [] ++ '[' :: (name.toList ++ ']' :: []) := by
    simp [Item.line]
  rw [hline]
  exact
    { whole := .regular (.header (by decide) hchars hname.trim (by decide))
      unbroken := by
        intro c hc
        simp only [List.nil_append, List.mem_cons, List.mem_append, List.not_mem_nil,
          or_false] at hc
        rcases hc with rfl | hc | rfl
        · decide
        · exact hname.unbroken c hc
        · decide
      lead := by simp; decide
      item? := by rw [Line.item?_header (by decide) hchars, String.ofList_toList] }

theorem tells_entry {key value : String} (hkey : LiteralKey key) (hvalue : OneLine value)
    (heven : Even (backslashes value.toList)) :
    Line.Tells (Item.line (.entry key value)).toList (.entry key value) := by
  obtain ⟨first, rest, hfirst⟩ : ∃ first rest, key.toList = first :: rest := by
    refine List.exists_cons_of_ne_nil fun hnil => hkey.nonempty ?_
    rw [← String.ofList_toList (s := key), hnil]
  have hline : (Item.line (.entry key value)).toList =
      [] ++ first :: (rest ++ '=' :: value.toList) := by
    simp [Item.line, hfirst]
  obtain ⟨hblank, hstart⟩ := hkey.start first (by simp [hfirst])
  have hchars := hkey.chars
  have hbroken := hkey.toOneLine.unbroken
  rw [hfirst] at hchars hbroken
  rw [hline]
  exact
    { whole := .entry (by decide) hblank hstart hchars (by decide)
        ((paired_iff_even _).mpr heven)
      unbroken := by
        intro c hc
        have hcases : c ∈ first :: rest ∨ c = '=' ∨ c ∈ value.toList := by
          simp at hc ⊢
          tauto
        rcases hcases with hc | rfl | hc
        · exact hbroken c hc
        · decide
        · exact hvalue.unbroken c hc
      lead := by simpa using hblank
      item? := by
        rw [Line.item?_entry (by decide) hblank hstart hchars (by decide), ← hfirst,
          hkey.toOneLine.trim, hvalue.trim, String.ofList_toList, String.ofList_toList] }

theorem Item.Literal.tells {item : Item} (h : item.Literal) :
    Line.Tells item.line.toList item := by
  cases h with
  | header hname hchars => exact tells_header hname hchars
  | entry hkey hvalue heven => exact tells_entry hkey hvalue heven

/-! ## Reading what was printed -/

theorem linesOf_append {line : List Char} (hu : Unbroken line) (cs : List Char) :
    linesOf (line ++ '\n' :: cs) = line :: linesOf cs := by
  induction line with
  | nil => rw [List.nil_append, linesOf]
  | cons c line ih =>
      have hc : c ≠ '\n' ∧ c ≠ '\r' := by
        simpa [isLineEnd] using hu c (List.mem_cons_self ..)
      rw [List.cons_append, linesOf.eq_4 _ _ hc.1 (fun _ h => absurd h hc.2), ih hu.of_cons]
      rfl

theorem linesOf_printed {items : List Item} (h : ∀ item ∈ items, item.Literal) :
    linesOf (printed items).toList = items.map (·.line.toList) ++ [[]] := by
  induction items with
  | nil => rfl
  | cons item items ih =>
      rw [List.forall_mem_cons] at h
      have htext : (printed (item :: items)).toList =
          item.line.toList ++ '\n' :: (printed items).toList := by
        simp [printed]
      rw [htext, linesOf_append h.1.tells.unbroken, ih h.2, List.map_cons, List.cons_append]

theorem leadsReadable_of_lead {lines : List (List Char)}
    (h : ∀ line ∈ lines, ∀ c ∈ line.head?, isBlank c = false) (settled : Bool) :
    leadsReadable settled lines = true := by
  induction lines generalizing settled with
  | nil => rfl
  | cons line lines ih =>
      have hplain : Line.hasPlainLead line = true := by
        cases line with
        | nil => rfl
        | cons c cs => simp [Line.hasPlainLead, h (c :: cs) (List.mem_cons_self ..) c rfl]
      rw [leadsReadable, hplain, Bool.or_true, Bool.true_or, Bool.true_and]
      exact ih (fun l hl => h l (List.mem_cons_of_mem _ hl)) _

/-- **What was printed is read.** -/
theorem read_printed {items : List Item} (h : ∀ item ∈ items, item.Literal) :
    read (printed items) = .ok ⟨items⟩ := by
  have hlines := linesOf_printed h
  have hmem : ∀ {line}, line ∈ linesOf (printed items).toList →
      line = [] ∨ ∃ item, Line.Tells line item := by
    intro line hline
    rw [hlines, List.mem_append, List.mem_map, List.mem_singleton] at hline
    rcases hline with ⟨item, hitem, rfl⟩ | rfl
    · exact Or.inr ⟨item, (h item hitem).tells⟩
    · exact Or.inl rfl
  have hitems : itemsOf (linesOf (printed items).toList) = items := by
    have htells : items.filterMap (Line.item? ∘ (·.line.toList)) = items.filterMap some :=
      List.filterMap_congr fun item hitem => (h item hitem).tells.item?
    rw [hlines, itemsOf, List.filterMap_append, List.filterMap_map, htells, List.filterMap_some]
    exact List.append_nil items
  rw [read_eq_items_of_whole, hitems]
  · intro line hline
    rcases hmem hline with rfl | ⟨item, htells⟩
    · exact ⟨.regular (.blank (by decide)), by decide⟩
    · exact ⟨htells.whole, fun hreturn => absurd (htells.unbroken _ hreturn) (by decide)⟩
  · refine leadsReadable_of_lead (fun line hline => ?_) false
    rcases hmem hline with rfl | ⟨item, htells⟩
    · simp
    · exact htells.lead

end GadgetModes.KeyFile
