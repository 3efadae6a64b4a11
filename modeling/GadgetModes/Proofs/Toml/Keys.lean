import Mathlib.Data.List.Nodup
import GadgetModes.Toml.Document

/-!
# No key comes twice

In the table that a document gives no key comes twice, nor in any table inside it, whichever way
the tables were written (`Document.distinct_of_carryOut`). Every change of a table keeps this, so
it holds of what the statements build up; and it holds of the values between braces, because
these are built up in the same way.
-/

namespace GadgetModes.Toml

open GadgetModes.Decimal

/-- In no table inside a value does a key come twice. -/
inductive Value.Distinct : Value → Prop
  | string (text : String) : Distinct (.string text)
  | integer (n : Int) : Distinct (.integer n)
  | float (x : Binary64) : Distinct (.float x)
  | boolean (b : Bool) : Distinct (.boolean b)
  | moment (text : String) : Distinct (.moment text)
  | array {items : List Value} (hitems : ∀ v ∈ items, Distinct v) : Distinct (.array items)
  | table {origin : Origin} {t : Table} (hkeys : (t.map (·.1)).Nodup)
      (hvalues : ∀ e ∈ t, Distinct e.2) : Distinct (.table origin t)
  | tables {earlier : List Table} {last : Table}
      (hkeys : ∀ t ∈ earlier ++ [last], (t.map (·.1)).Nodup)
      (hvalues : ∀ t ∈ earlier ++ [last], ∀ e ∈ t, Distinct e.2) :
      Distinct (.tables earlier last)

/-- No key comes twice in a table, nor in a table inside it. -/
structure Table.Distinct (t : Table) : Prop where
  keys : (t.map (·.1)).Nodup
  values : ∀ e ∈ t, e.2.Distinct

/-! ## Tables as values -/

theorem Value.distinct_table {origin : Origin} {t : Table} :
    (Value.table origin t).Distinct ↔ t.Distinct := by
  constructor
  · rintro (_ | _ | _ | _ | _ | _ | ⟨hkeys, hvalues⟩)
    exact ⟨hkeys, hvalues⟩
  · rintro ⟨hkeys, hvalues⟩
    exact .table hkeys hvalues

theorem Value.distinct_tables {earlier : List Table} {last : Table} :
    (Value.tables earlier last).Distinct ↔ ∀ t ∈ earlier ++ [last], t.Distinct := by
  constructor
  · rintro (_ | _ | _ | _ | _ | _ | _ | ⟨hkeys, hvalues⟩)
    exact fun t ht => ⟨hkeys t ht, hvalues t ht⟩
  · intro h
    exact .tables (fun t ht => (h t ht).keys) fun t ht => (h t ht).values

/-! ## Changing a table -/

namespace Table

variable {t u : Table} {key : String} {v : Value}

theorem get?_eq_none_iff : t.get? key = none ↔ key ∉ t.map (·.1) := by
  simp only [get?, Option.map_eq_none_iff, List.find?_eq_none, decide_eq_true_eq, List.mem_map,
    not_exists, not_and]

theorem mem_of_get? (h : t.get? key = some v) : (key, v) ∈ t := by
  obtain ⟨e, he, rfl⟩ := Option.map_eq_some_iff.mp h
  obtain rfl : e.1 = key := by simpa using List.find?_some he
  exact List.mem_of_find?_eq_some he

/-- Putting a value leaves the keys, or adds one that was not there. -/
theorem map_fst_put (t : Table) (key : String) (v : Value) :
    (t.put key v).map (·.1) = t.map (·.1)
      ∨ key ∉ t.map (·.1) ∧ (t.put key v).map (·.1) = t.map (·.1) ++ [key] := by
  rw [put]
  split
  · left
    rw [List.map_map]
    refine List.map_congr_left fun e _ => ?_
    by_cases he : e.1 = key <;> simp [he]
  · next hnew =>
    right
    exact ⟨by simpa using hnew, by simp⟩

theorem mem_put {e : String × Value} (h : e ∈ t.put key v) : e = (key, v) ∨ e ∈ t := by
  rw [put] at h
  split at h
  · obtain ⟨d, hd, rfl⟩ := List.mem_map.mp h
    split
    · exact .inl rfl
    · exact .inr hd
  · rcases List.mem_append.mp h with he | he
    · exact .inr he
    · exact .inl (List.mem_singleton.mp he)

theorem get?_erase_self (t : Table) (key : String) : (t.erase key).get? key = none := by
  simp [get?_eq_none_iff, erase]

namespace Distinct

theorem nil : Distinct [] where
  keys := List.nodup_nil
  values := nofun

theorem get?_eq_some_iff (h : t.Distinct) : t.get? key = some v ↔ (key, v) ∈ t := by
  refine ⟨mem_of_get?, fun hmem => ?_⟩
  obtain ⟨w, hw⟩ : ∃ w, t.get? key = some w := by
    rw [← Option.ne_none_iff_exists', ne_eq, get?_eq_none_iff, not_not]
    exact List.mem_map_of_mem hmem
  obtain ⟨-, rfl⟩ := Prod.mk.inj
    (List.inj_on_of_nodup_map h.keys hmem (mem_of_get? hw) rfl)
  exact hw

theorem value (h : t.Distinct) (hget : t.get? key = some v) : v.Distinct :=
  h.values _ (mem_of_get? hget)

theorem append (h : t.Distinct) (hnew : t.get? key = none) (hv : v.Distinct) :
    Distinct (t ++ [(key, v)]) where
  keys := by
    rw [List.map_append]
    exact List.nodup_append_comm.mp (List.nodup_cons.mpr ⟨get?_eq_none_iff.mp hnew, h.keys⟩)
  values := by
    intro e he
    rcases List.mem_append.mp he with he | he
    · exact h.values e he
    · rw [List.mem_singleton.mp he]
      exact hv

theorem put (h : t.Distinct) (hv : v.Distinct) : (t.put key v).Distinct where
  keys := by
    rcases map_fst_put t key v with heq | ⟨hnew, heq⟩
    · rw [heq]
      exact h.keys
    · rw [heq]
      exact List.nodup_append_comm.mp (List.nodup_cons.mpr ⟨hnew, h.keys⟩)
  values := by
    intro e he
    rcases mem_put he with rfl | he
    · exact hv
    · exact h.values e he

theorem erase (h : t.Distinct) (key : String) : (t.erase key).Distinct where
  keys := (List.filter_sublist.map _).nodup h.keys
  values e he := h.values e (List.mem_filter.mp he).1

/-- What the table at the end of a path keeps, all tables on the way to it keep. -/
theorem descend {dotted : Bool} {change : Origin → Table → Option Table}
    (hchange : ∀ origin t u, t.Distinct → change origin t = some u → u.Distinct)
    {path : List String} {origin : Origin} (h : t.Distinct)
    (hu : t.descend dotted change path origin = some u) : u.Distinct := by
  induction path generalizing origin t u with
  | nil => exact hchange _ _ _ h hu
  | cons key path ih =>
    rw [Table.descend] at hu
    split at hu
    · obtain ⟨w, hw, rfl⟩ := Option.map_eq_some_iff.mp hu
      exact h.put (Value.distinct_table.mpr (ih nil hw))
    · next hget =>
      split at hu
      · cases hu
      · obtain ⟨w, hw, rfl⟩ := Option.map_eq_some_iff.mp hu
        exact h.put (Value.distinct_table.mpr (ih (Value.distinct_table.mp (h.value hget)) hw))
    · next earlier last hget =>
      obtain ⟨w, hw, rfl⟩ := Option.map_eq_some_iff.mp hu
      have htables := Value.distinct_tables.mp (h.value hget)
      have hw := ih (htables last (by simp)) hw
      refine h.put (Value.distinct_tables.mpr fun t ht => ?_)
      rcases List.mem_append.mp ht with ht | ht
      · exact htables t (List.mem_append_left _ ht)
      · rw [List.mem_singleton.mp ht]
        exact hw
    · cases hu

theorem define {key : Key} (h : t.Distinct) (hv : v.Distinct) (hu : t.define key v = some u) :
    u.Distinct := by
  refine h.descend (fun origin t u ht hchange => ?_) hu
  split at hchange
  · cases hchange
  · next hfree =>
    obtain rfl := Option.some.inj hchange
    exact ht.append (by simp_all) hv

theorem openTable {key : Key} (h : t.Distinct) (hu : t.openTable key = some u) :
    u.Distinct := by
  refine h.descend (fun origin t u ht hchange => ?_) hu
  split at hchange
  · next hnew =>
    obtain rfl := Option.some.inj hchange
    exact ht.append hnew (Value.distinct_table.mpr nil)
  · next w hget =>
    obtain rfl := Option.some.inj hchange
    have hw := Value.distinct_table.mp (ht.value hget)
    exact (ht.erase key.name).append (get?_erase_self t key.name) (Value.distinct_table.mpr hw)
  · cases hchange

theorem openNext {key : Key} (h : t.Distinct) (hu : t.openNext key = some u) : u.Distinct := by
  refine h.descend (fun origin t u ht hchange => ?_) hu
  split at hchange
  · next hnew =>
    obtain rfl := Option.some.inj hchange
    exact ht.append hnew (Value.distinct_tables.mpr (by simpa using nil))
  · next earlier last hget =>
    obtain rfl := Option.some.inj hchange
    have htables := Value.distinct_tables.mp (ht.value hget)
    refine ht.put (Value.distinct_tables.mpr fun t ht => ?_)
    rcases List.mem_append.mp ht with ht | ht
    · exact htables t ht
    · rw [List.mem_singleton.mp ht]
      exact nil
  · cases hchange

end Distinct

end Table

/-! ## Values of expressions -/

/-- Folding changes that keep something true keeps it true. -/
theorem foldlM_invariant {α β : Type} {change : α → β → Option α} {P : α → Prop} {Q : β → Prop}
    (hchange : ∀ a b a', P a → Q b → change a b = some a' → P a') {bs : List β} {a a' : α}
    (ha : P a) (hbs : ∀ b ∈ bs, Q b) (h : bs.foldlM change a = some a') : P a' := by
  induction bs generalizing a with
  | nil => exact Option.some.inj h ▸ ha
  | cons b bs ih =>
    rw [List.foldlM_cons] at h
    obtain ⟨c, hc, h⟩ := Option.bind_eq_some_iff.mp h
    obtain ⟨hb, hbs⟩ := List.forall_mem_cons.mp hbs
    exact ih (hchange a b c ha hb hc) hbs h

theorem distinct_of_tableOf {bs : List (Key × Value)} {t : Table}
    (hbs : ∀ b ∈ bs, b.2.Distinct) (h : tableOf bs = some t) : t.Distinct :=
  foldlM_invariant (fun _ _ _ ht hb => ht.define hb) Table.Distinct.nil hbs h

theorem Number.distinct_value (n : Number) : n.value.Distinct := by
  cases n with
  | integer n => exact .integer n
  | infinite negative => exact .float _
  | nan => exact .float _
  | decimal negative digits exponent => exact .float _

namespace Expr

mutual

theorem distinct_of_value? {v : Value} : ∀ {e : Expr}, e.value? = some v → v.Distinct
  | .string text, h => Option.some.inj h ▸ .string text
  | .boolean b, h => Option.some.inj h ▸ .boolean b
  | .moment text, h => Option.some.inj h ▸ .moment text
  | .number n, h => Option.some.inj h ▸ n.distinct_value
  | .array items, h => by
    obtain ⟨vs, hvs, rfl⟩ := Option.map_eq_some_iff.mp h
    exact .array (distinct_of_values? hvs)
  | .table bindings, h => by
    obtain ⟨bs, hbs, h⟩ := Option.bind_eq_some_iff.mp h
    obtain ⟨t, ht, rfl⟩ := Option.map_eq_some_iff.mp h
    exact Value.distinct_table.mpr (distinct_of_tableOf (distinct_of_boundValues? hbs) ht)

theorem distinct_of_values? {vs : List Value} :
    ∀ {es : List Expr}, values? es = some vs → ∀ v ∈ vs, v.Distinct
  | [], h => by
    obtain rfl := Option.some.inj h
    exact nofun
  | e :: es, h => by
    obtain ⟨v, hv, h⟩ := Option.bind_eq_some_iff.mp h
    obtain ⟨ws, hws, h⟩ := Option.bind_eq_some_iff.mp h
    obtain rfl := Option.some.inj h
    exact List.forall_mem_cons.mpr ⟨distinct_of_value? hv, distinct_of_values? hws⟩

theorem distinct_of_boundValues? {vs : List (Key × Value)} :
    ∀ {bs : List (Key × Expr)}, boundValues? bs = some vs → ∀ v ∈ vs, v.2.Distinct
  | [], h => by
    obtain rfl := Option.some.inj h
    exact nofun
  | (k, e) :: bs, h => by
    obtain ⟨v, hv, h⟩ := Option.bind_eq_some_iff.mp h
    obtain ⟨ws, hws, h⟩ := Option.bind_eq_some_iff.mp h
    obtain rfl := Option.some.inj h
    exact List.forall_mem_cons.mpr ⟨distinct_of_value? hv, distinct_of_boundValues? hws⟩

end

end Expr

/-! ## Documents -/

namespace Document

theorem distinct_of_apply {d d' : Document} {st : Statement} (hd : d.table.Distinct)
    (h : d.apply st = some d') : d'.table.Distinct := by
  cases st with
  | header k =>
    obtain ⟨t, ht, rfl⟩ := Option.map_eq_some_iff.mp h
    exact hd.openTable ht
  | nextHeader k =>
    obtain ⟨t, ht, rfl⟩ := Option.map_eq_some_iff.mp h
    exact hd.openNext ht
  | entry k e =>
    obtain ⟨v, hv, h⟩ := Option.bind_eq_some_iff.mp h
    obtain ⟨t, ht, rfl⟩ := Option.map_eq_some_iff.mp h
    exact hd.descend (fun _ _ _ hu => hu.define (Expr.distinct_of_value? hv)) ht

/-- No key comes twice in the table that statements give, nor in a table inside it. -/
theorem distinct_of_carryOut {sts : List Statement} {t : Table} (h : carryOut sts = some t) :
    t.Distinct := by
  obtain ⟨d, hd, rfl⟩ := Option.map_eq_some_iff.mp h
  refine foldlM_invariant (P := fun d => d.table.Distinct) (Q := fun _ => True)
    (fun _ _ _ hd _ => distinct_of_apply hd) Table.Distinct.nil (fun _ _ => trivial) hd

end Document

end GadgetModes.Toml
