import GadgetModes.Config.Read
import GadgetModes.Proofs.FileSystem.Reading
import GadgetModes.Proofs.Toml.Keys

/-!
# Tables laid over structures

A table in which no key comes twice sets each field of a structure at most once, and no other
field with it (`Schema.Sets`). So the order of its keys does not matter, and neither do the keys
that are not known. It can be laid over a structure if every known key in it has a value of its
type (`Schema.Typed`).
-/

namespace GadgetModes

open GadgetModes.Toml

/-! ## What a document says -/

namespace Toml

namespace Value

def text? : Value → Option String
  | .string text => some text
  | _ => none

def truth? : Value → Option Bool
  | .boolean b => some b
  | _ => none

theorem text?_eq_some_iff {v : Value} {text : String} : v.text? = some text ↔ v = .string text := by
  cases v <;> simp [text?]

theorem truth?_eq_some_iff {v : Value} {b : Bool} : v.truth? = some b ↔ v = .boolean b := by
  cases v <;> simp [truth?]

/-- Whether a value is a table, however it was written. -/
def isTable : Value → Bool
  | .table .. => true
  | _ => false

theorem isTable_iff {v : Value} : v.isTable ↔ ∃ origin t, v = .table origin t := by
  cases v <;> simp [isTable]

/-- The entries of a table; what is no table has none. -/
def entries : Value → Table
  | .table _ t => t
  | _ => []

end Value

namespace Table

/-- The entries of the table under a key, if it is there. -/
def under (t : Table) (name : String) : Table :=
  (t.get? name).elim [] Value.entries

/-- What a document says of a key in one of its tables, if anything. -/
def setting? (t : Table) (table key : String) : Option Value :=
  (t.under table).get? key

theorem setting?_eq_some_iff {t : Table} {table key : String} {w : Value} :
    t.setting? table key = some w ↔
      ∃ v, t.get? table = some v ∧ v.entries.get? key = some w := by
  rw [setting?, under]
  cases t.get? table with
  | none => exact ⟨nofun, fun ⟨_, hnone, _⟩ => nomatch hnone⟩
  | some v => simp

theorem Distinct.under {t : Table} (h : t.Distinct) (name : String) : (t.under name).Distinct := by
  rw [Table.under]
  cases hget : t.get? name with
  | none => exact Distinct.nil
  | some v =>
    cases v with
    | table origin u => exact Value.distinct_table.mp (h.value hget)
    | _ => exact Distinct.nil

end Table

end Toml

namespace Config

/-! ## Fields -/

section Fields

variable {α β : Type} {key : String} {v : Value} {a b : α}

@[simp] theorem textField_key (expected : Expected) (key : String) (put : String → α → α) :
    (textField expected key put).key = key := rfl

@[simp] theorem truthField_key (key : String) (put : Bool → α → α) :
    (truthField key put).key = key := rfl

@[simp] theorem structField_key (key : String) (schema : Schema β) (get : α → β)
    (put : β → α → α) : (structField key schema get put).key = key := rfl

theorem textField_set {expected : Expected} {put : String → α → α} :
    (textField expected key put).set v a = .ok b ↔ ∃ text, v = .string text ∧ put text a = b := by
  cases v <;> simp [textField]

theorem truthField_set {put : Bool → α → α} :
    (truthField key put).set v a = .ok b ↔ ∃ truth, v = .boolean truth ∧ put truth a = b := by
  cases v <;> simp [truthField]

theorem structField_set {schema : Schema β} {get : α → β} {put : β → α → α} :
    (structField key schema get put).set v a = .ok b ↔
      ∃ c, schema.set v (get a) = .ok c ∧ put c a = b := by
  cases h : schema.set v (get a) <;> simp [structField, h, Except.map]

end Fields

/-! ## Tables and fields -/

namespace Schema

variable {α β : Type} {s : Schema α} {t : Table}

theorem overlay_cons (s : Schema α) (e : String × Value) (t : Table) (a : α) :
    s.overlay (e :: t) a = (s.setKey a e).bind (s.overlay t) := by
  rw [overlay, List.foldlM_cons]
  rfl

theorem overlay_append_cons {before after : Table} {e : String × Value} {a b : α} :
    s.overlay (before ++ e :: after) a = .ok b ↔
      ∃ c d, s.overlay before a = .ok c ∧ s.setKey c e = .ok d ∧ s.overlay after d = .ok b := by
  have hsplit : s.overlay (before ++ e :: after) a =
      (s.overlay before a).bind (s.overlay (e :: after)) :=
    List.foldlM_append
  rw [hsplit]
  cases hc : s.overlay before a with
  | error fault => simp [Except.bind]
  | ok c =>
    simp only [Except.bind, overlay_cons, Except.ok.injEq, exists_and_left, exists_eq_left']
    cases s.setKey c e <;> simp

theorem setKey_cases (s : Schema α) (a : α) (e : String × Value) :
    (∃ field ∈ s.fields, field.key = e.1 ∧ s.setKey a e = field.set e.2 a)
      ∨ (∀ field ∈ s.fields, field.key ≠ e.1) ∧ s.setKey a e = .ok a := by
  rw [setKey]
  cases hfind : s.fields.find? (·.key = e.1) with
  | some field =>
    exact .inl ⟨field, List.mem_of_find?_eq_some hfind, by simpa using List.find?_some hfind, rfl⟩
  | none => exact .inr ⟨by simpa using hfind, rfl⟩

/-- A table can be laid over a structure if each of its values can be given to the field of its
key, if there is one. -/
theorem exists_overlay_iff {P : String × Value → Prop}
    (h : ∀ e ∈ t, ∀ field ∈ s.fields, field.key = e.1 →
      ∀ a, (∃ b, field.set e.2 a = .ok b) ↔ P e) (a : α) :
    (∃ b, s.overlay t a = .ok b) ↔ ∀ e ∈ t, (∃ field ∈ s.fields, field.key = e.1) → P e := by
  induction t generalizing a with
  | nil => exact ⟨fun _ => nofun, fun _ => ⟨a, rfl⟩⟩
  | cons e t ih =>
    obtain ⟨he, ht⟩ := List.forall_mem_cons.mp h
    rw [overlay_cons, List.forall_mem_cons]
    rcases s.setKey_cases a e with ⟨field, hfield, hkey, hset⟩ | ⟨hunknown, hset⟩
    · have hP := he field hfield hkey a
      rw [hset]
      cases hvalue : field.set e.2 a with
      | error fault =>
        have hnot : ¬P e := fun hp => by
          obtain ⟨b, hb⟩ := hP.mpr hp
          cases hvalue.symm.trans hb
        exact ⟨fun ⟨b, hb⟩ => (by cases hb), fun hall => absurd (hall.1 ⟨field, hfield, hkey⟩) hnot⟩
      | ok c =>
        have hp : P e := hP.mp ⟨c, hvalue⟩
        exact (ih ht c).trans ⟨fun hall => ⟨fun _ => hp, hall⟩, And.right⟩
    · rw [hset]
      refine (ih ht a).trans ⟨fun hall => ⟨?_, hall⟩, And.right⟩
      rintro ⟨field, hfield, hkey⟩
      exact absurd hkey (hunknown field hfield)

/-- One key sets what `get` shows of a structure, as `R` tells, and no other key changes it. -/
structure Sets (s : Schema α) (key : String) (get : α → β) (R : Value → β → β → Prop) : Prop where
  known : ∃ field ∈ s.fields, field.key = key
  own : ∀ field ∈ s.fields, field.key = key → ∀ v a b, field.set v a = .ok b →
    R v (get a) (get b)
  others : ∀ field ∈ s.fields, field.key ≠ key → ∀ v a b, field.set v a = .ok b → get b = get a

namespace Sets

variable {key : String} {get : α → β} {R : Value → β → β → Prop} {a b c : α}

theorem setKey_ne (h : s.Sets key get R) {e : String × Value} (hne : e.1 ≠ key)
    (hc : s.setKey a e = .ok c) : get c = get a := by
  rcases s.setKey_cases a e with ⟨field, hfield, hkey, hset⟩ | ⟨-, hset⟩
  · exact h.others field hfield (hkey ▸ hne) _ _ _ (hset.symm.trans hc)
  · rw [Except.ok.inj (hset.symm.trans hc)]

/-- A table without the key leaves what the key sets. -/
theorem overlay_of_absent (h : s.Sets key get R) (hkey : t.get? key = none)
    (hb : s.overlay t a = .ok b) : get b = get a := by
  induction t generalizing a with
  | nil => rw [Except.ok.inj hb]
  | cons e t ih =>
    rw [Table.get?_eq_none_iff, List.map_cons, List.mem_cons, not_or] at hkey
    rw [overlay_cons] at hb
    cases hc : s.setKey a e with
    | error fault => rw [hc] at hb; cases hb
    | ok c =>
      rw [hc] at hb
      rw [ih (Table.get?_eq_none_iff.mpr hkey.2) hb, h.setKey_ne (Ne.symm hkey.1) hc]

/-- A table with the key sets it once. -/
theorem overlay_of_present (h : s.Sets key get R) (ht : t.Distinct) {v : Value}
    (hv : t.get? key = some v) (hb : s.overlay t a = .ok b) : R v (get a) (get b) := by
  -- The entries before and after the one with the key have other keys.
  obtain ⟨before, after, rfl⟩ := List.append_of_mem (Table.mem_of_get? hv)
  obtain ⟨hbefore, hafter⟩ : key ∉ before.map (·.1) ∧ key ∉ after.map (·.1) := by
    have hkeys := ht.keys
    simp only [List.map_append, List.map_cons, List.nodup_append, List.nodup_cons,
      List.mem_cons] at hkeys
    exact ⟨fun hmem => hkeys.2.2 key hmem key (.inl rfl) rfl, hkeys.2.1.1⟩
  obtain ⟨c, d, hc, hd, hb⟩ := overlay_append_cons.mp hb
  rw [h.overlay_of_absent (Table.get?_eq_none_iff.mpr hafter) hb,
    ← h.overlay_of_absent (Table.get?_eq_none_iff.mpr hbefore) hc]
  rcases s.setKey_cases c (key, v) with ⟨field, hfield, hkey, hset⟩ | ⟨hunknown, -⟩
  · exact h.own field hfield hkey _ _ _ (hset.symm.trans hd)
  · obtain ⟨field, hfield, hkey⟩ := h.known
    exact absurd hkey (hunknown field hfield)

/-- What a table has in its place, seen in some way, or else what was there. -/
theorem get_eq {view : Value → Option β} (h : s.Sets key get fun v _ new => view v = some new)
    (ht : t.Distinct) (hb : s.overlay t a = .ok b) :
    get b = ((t.get? key).bind view).getD (get a) := by
  cases hget : t.get? key with
  | none => exact h.overlay_of_absent hget hb
  | some v =>
    have hview : view v = some (get b) := h.overlay_of_present ht hget hb
    rw [Option.bind_some, hview, Option.getD_some]

/-- A part is laid over by the table under its key. -/
theorem overlay_under {part : Schema β}
    (h : s.Sets key get fun v old new => part.set v old = .ok new) (ht : t.Distinct)
    (htable : ∀ v, t.get? key = some v → v.isTable)
    (hb : s.overlay t a = .ok b) : part.overlay (t.under key) (get a) = .ok (get b) := by
  rw [Table.under]
  cases hget : t.get? key with
  | none =>
    rw [h.overlay_of_absent hget hb]
    rfl
  | some v =>
    obtain ⟨origin, u, rfl⟩ := Value.isTable_iff.mp (htable v hget)
    exact h.overlay_of_present ht hget hb

end Sets

/-! ## Types -/

/-- The fields of a schema take values of some types, as far as the values are `C`. -/
structure Typed {τ : Type} (s : Schema α) (C : Value → Prop) (Takes : τ → Value → Prop)
    (types : List (String × τ)) : Prop where
  keys : (types.map (·.1)).Nodup
  known : ∀ type ∈ types, ∃ field ∈ s.fields, field.key = type.1
  takes : ∀ field ∈ s.fields, ∃ type ∈ types, field.key = type.1
    ∧ ∀ v, C v → ∀ a, (∃ b, field.set v a = .ok b) ↔ Takes type.2 v

theorem Typed.exists_overlay_iff {τ : Type} {C : Value → Prop} {Takes : τ → Value → Prop}
    {types : List (String × τ)} (h : s.Typed C Takes types) (ht : t.Distinct)
    (hC : ∀ type ∈ types, ∀ v, t.get? type.1 = some v → C v) (a : α) :
    (∃ b, s.overlay t a = .ok b) ↔
      ∀ type ∈ types, ∀ v, t.get? type.1 = some v → Takes type.2 v := by
  -- No type is listed twice for a key, so the types listed for it are the one of its field.
  have hfits : ∀ e ∈ t, ∀ field ∈ s.fields, field.key = e.1 → ∀ a,
      (∃ b, field.set e.2 a = .ok b) ↔ ∀ type ∈ types, type.1 = e.1 → Takes type.2 e.2 := by
    intro e he field hfield hkey a
    obtain ⟨type, htype, htypeKey, htakes⟩ := h.takes field hfield
    have hname : type.1 = e.1 := htypeKey.symm.trans hkey
    rw [htakes e.2 (hC type htype _ (ht.get?_eq_some_iff.mpr (hname ▸ he))) a]
    constructor
    · intro hvalue type' htype' hname'
      rwa [List.inj_on_of_nodup_map h.keys htype' htype (hname'.trans hname.symm)]
    · intro hall
      exact hall type htype hname
  rw [Schema.exists_overlay_iff hfits]
  constructor
  · intro hall type htype v hget
    exact hall _ (Table.mem_of_get? hget) (h.known type htype) type htype rfl
  · rintro hall e he - type htype hname
    exact hall type htype e.2 (ht.get?_eq_some_iff.mpr (hname ▸ he))

end Schema

end Config

end GadgetModes
