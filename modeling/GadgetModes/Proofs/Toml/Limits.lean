import GadgetModes.Toml.Document

/-!
# Documents within limits

Limits decide whether a text is read, and not what it is read as: under some limits a text gives
the statements that it gives under wider ones, provided that each of them is within the limits
(`Document.statementsOf_iff`), and this is told of the statements alone. So there is a meaning to
what a text says as a document, apart from all limits (`Document.Says`); it is read if that is
within the usual ones (`Document.read_eq_some_iff`).
-/

namespace GadgetModes.Toml

/-! ## What is within limits -/

/-- Arrays and tables are nested no deeper than that, keys have no more parts than the limits
allow, and the numbers are ones that they allow. -/
inductive Expr.Within (limits : Limits) : Nat → Expr → Prop
  | string (depth : Nat) (text : String) : Within limits depth (.string text)
  | boolean (depth : Nat) (b : Bool) : Within limits depth (.boolean b)
  | moment (depth : Nat) (text : String) : Within limits depth (.moment text)
  | number (depth : Nat) {n : Number} (hholds : limits.holds n) : Within limits depth (.number n)
  | array {depth : Nat} {items : List Expr} (hitems : ∀ e ∈ items, Within limits depth e) :
      Within limits (depth + 1) (.array items)
  | table {depth : Nat} {bindings : List (Key × Expr)}
      (hkeys : ∀ b ∈ bindings, b.1.path.length ≤ limits.parts)
      (hvalues : ∀ b ∈ bindings, Within limits depth b.2) :
      Within limits (depth + 1) (.table bindings)

def Statement.Within (limits : Limits) : Statement → Prop
  | .header k | .nextHeader k => k.path.length ≤ limits.parts
  | .entry k e => k.path.length ≤ limits.parts ∧ e.Within limits limits.nesting

/-- What is within some limits is within wider ones. -/
structure Limits.Wider (wide limits : Limits) : Prop where
  nesting : limits.nesting ≤ wide.nesting
  parts : limits.parts ≤ wide.parts
  holds : ∀ n, limits.holds n → wide.holds n

/-- The least limits that are wider than two others. -/
def Limits.join (l m : Limits) : Limits where
  nesting := max l.nesting m.nesting
  parts := max l.parts m.parts
  holds n := l.holds n || m.holds n

theorem Limits.join_wider_left (l m : Limits) : (l.join m).Wider l where
  nesting := Nat.le_max_left ..
  parts := Nat.le_max_left ..
  holds n h := by simp [join, h]

theorem Limits.join_wider_right (l m : Limits) : (l.join m).Wider m where
  nesting := Nat.le_max_right ..
  parts := Nat.le_max_right ..
  holds n h := by simp [join, h]

/-! ## Readers -/

/-- A reader gives what a wider one gives, where that has a property. -/
def Restricts {α : Type} (read wide : Reader α) (P : α → Prop) : Prop :=
  ∀ s a rest, read s = some (a, rest) ↔ wide s = some (a, rest) ∧ P a

theorem keyParts_succ {limit : Nat} {s rest : List Char} {parts : List String} :
    keyParts (limit + 1) s = some (parts, rest) ↔
      ∃ part after, keyPart (skipBlanks s) = some (part, after)
        ∧ ((∃ next others, skipBlanks after = '.' :: next
              ∧ keyParts limit next = some (others, rest) ∧ parts = part :: others)
          ∨ (∀ next, skipBlanks after ≠ '.' :: next) ∧ parts = [part]
            ∧ rest = skipBlanks after) := by
  rw [keyParts]
  cases keyPart (skipBlanks s) with
  | none => simp
  | some found =>
    obtain ⟨part, after⟩ := found
    simp only [Option.bind_eq_bind, Option.bind_some]
    split
    · next next hdot =>
      simp only [Option.bind_eq_some_iff]
      grind
    · next hend =>
      simp only [Option.pure_def]
      grind

theorem length_pos_of_keyParts {limit : Nat} {s rest : List Char} {parts : List String}
    (h : keyParts limit s = some (parts, rest)) : 0 < parts.length := by
  cases limit with
  | zero => cases h
  | succ limit =>
    obtain ⟨part, after, -, ⟨next, others, -, -, rfl⟩ | ⟨-, rfl, -⟩⟩ := keyParts_succ.mp h
    · exact Nat.succ_pos _
    · exact Nat.one_pos

theorem restricts_keyParts {limit wide : Nat} (h : limit ≤ wide) :
    Restricts (keyParts limit) (keyParts wide) fun parts => parts.length ≤ limit := by
  induction limit generalizing wide with
  | zero =>
    intro s parts rest
    refine ⟨nofun, fun ⟨hread, hlength⟩ => ?_⟩
    exact absurd (length_pos_of_keyParts hread) (Nat.not_lt.mpr hlength)
  | succ limit ih =>
    obtain ⟨wide, rfl⟩ := Nat.exists_eq_succ_of_ne_zero (Nat.ne_of_gt (Nat.zero_lt_of_lt h))
    have hothers := ih (Nat.le_of_succ_le_succ h)
    intro s parts rest
    simp only [keyParts_succ, hothers _ _ _]
    grind

theorem key_eq_some_iff {limits : Limits} {s rest : List Char} {k : Key} :
    key limits s = some (k, rest) ↔ keyParts limits.parts s = some (k.path, rest) := by
  rw [key]
  cases hparts : keyParts limits.parts s with
  | none => simp
  | some found =>
    obtain ⟨parts, after⟩ := found
    have hne : parts ≠ [] := List.ne_nil_of_length_pos (length_pos_of_keyParts hparts)
    obtain ⟨parents, name, rfl⟩ := (List.eq_nil_or_concat parts).resolve_left hne
    obtain ⟨parents', name'⟩ := k
    simp [Key.path]

/-- Wider limits on keys let through keys with more parts, and no others. -/
theorem restricts_key {limits wide : Limits} (h : wide.Wider limits) :
    Restricts (key limits) (key wide) fun k => k.path.length ≤ limits.parts := by
  intro s k rest
  rw [key_eq_some_iff, key_eq_some_iff, restricts_keyParts h.parts]

section Items

variable {read wide : Reader Expr} {P : Expr → Prop}

theorem arrayItems_succ {limit : Nat} {s rest : List Char} {es : List Expr} :
    arrayItems read (limit + 1) s = some (es, rest) ↔
      skipGaps false s = ']' :: rest ∧ es = []
        ∨ (∀ next, skipGaps false s ≠ ']' :: next)
          ∧ ∃ e after, read (skipGaps false s) = some (e, after)
            ∧ ((∃ next others, skipGaps false after = ',' :: next
                  ∧ arrayItems read limit next = some (others, rest) ∧ es = e :: others)
              ∨ skipGaps false after = ']' :: rest ∧ es = [e]) := by
  rw [arrayItems]
  split
  · next next hend =>
    grind
  · next hmore =>
    cases read (skipGaps false s) with
    | none => grind
    | some found =>
      obtain ⟨e, after⟩ := found
      simp only [Option.bind_eq_bind, Option.bind_some]
      split
      · next next hcomma =>
        simp only [Option.bind_eq_some_iff]
        grind
      · grind
      · grind

theorem restricts_arrayItems (h : Restricts read wide P) (limit : Nat) :
    Restricts (arrayItems read limit) (arrayItems wide limit) fun es => ∀ e ∈ es, P e := by
  induction limit with
  | zero => exact fun s es rest => ⟨nofun, fun h => h.1⟩
  | succ limit ih =>
    intro s es rest
    simp only [arrayItems_succ, h _ _ _, ih _ _ _]
    grind

/-- A binding within limits on keys, with a value that has a property. -/
def Bound (limits : Limits) (P : Expr → Prop) (b : Key × Expr) : Prop :=
  b.1.path.length ≤ limits.parts ∧ P b.2

theorem binding_eq_some_iff {limits : Limits} {s rest : List Char} {b : Key × Expr} :
    binding limits read s = some (b, rest) ↔
      ∃ after next, key limits s = some (b.1, after) ∧ expect '=' after = some next
        ∧ read (skipBlanks next) = some (b.2, rest) := by
  obtain ⟨k, e⟩ := b
  simp only [binding, Option.bind_eq_bind, Option.bind_eq_some_iff, Option.pure_def]
  grind

theorem restricts_binding {limits wideLimits : Limits} (hwider : wideLimits.Wider limits)
    (h : Restricts read wide P) :
    Restricts (binding limits read) (binding wideLimits wide) (Bound limits P) := by
  intro s b rest
  simp only [binding_eq_some_iff, restricts_key hwider _ _ _, h _ _ _, Bound]
  grind

theorem tableBindings_succ {limits : Limits} {limit : Nat} {s rest : List Char}
    {bs : List (Key × Expr)} :
    tableBindings limits read (limit + 1) s = some (bs, rest) ↔
      ∃ b after, binding limits read s = some (b, after)
        ∧ ((∃ next others, skipBlanks after = ',' :: next
              ∧ tableBindings limits read limit next = some (others, rest) ∧ bs = b :: others)
          ∨ skipBlanks after = '\x7d' :: rest ∧ bs = [b]) := by
  rw [tableBindings]
  cases binding limits read s with
  | none => simp
  | some found =>
    obtain ⟨b, after⟩ := found
    simp only [Option.bind_eq_bind, Option.bind_some]
    split
    · next next hcomma =>
      simp only [Option.bind_eq_some_iff]
      grind
    · grind
    · grind

theorem restricts_tableBindings {limits wideLimits : Limits} (hwider : wideLimits.Wider limits)
    (h : Restricts read wide P) (limit : Nat) :
    Restricts (tableBindings limits read limit) (tableBindings wideLimits wide limit)
      fun bs => ∀ b ∈ bs, Bound limits P b := by
  induction limit with
  | zero => exact fun s bs rest => ⟨nofun, fun h => h.1⟩
  | succ limit ih =>
    intro s bs rest
    simp only [tableBindings_succ, restricts_binding hwider h _ _ _, ih _ _ _]
    grind

end Items

section Expressions

variable {limits wide : Limits} {depth : Nat}

theorem scalar?_eq_some_iff (h : wide.Wider limits) (depth : Nat) {token : List Char} {e : Expr} :
    scalar? limits token = some e ↔ scalar? wide token = some e ∧ e.Within limits depth := by
  have hboolean : ∀ b, (Expr.boolean b).Within limits depth := .boolean depth
  have hmoment : ∀ text, (Expr.moment text).Within limits depth := .moment depth
  have hnumber : ∀ n, (Expr.number n).Within limits depth ↔ limits.holds n :=
    fun n => ⟨fun | .number _ hholds => hholds, .number depth⟩
  have hholds := h.holds
  unfold scalar?
  split
  · grind
  · split
    · grind
    · split
      · grind
      · cases number? token with
        | none => simp
        | some n =>
          simp only [Option.map_eq_some_iff, Option.filter_eq_some_iff]
          grind

variable {s rest : List Char} {e : Expr}

theorem expr_bracket :
    expr limits depth ('[' :: s) = some (e, rest) ↔
      ∃ inner items, depth = inner + 1 ∧ e = .array items
        ∧ arrayItems (expr limits inner) (s.length + 1) s = some (items, rest) := by
  rw [expr.eq_def]
  cases depth with
  | zero => simp
  | succ inner =>
    change (arrayItems (expr limits inner) (s.length + 1) s).map _ = _ ↔ _
    simp only [Option.map_eq_some_iff]
    grind

theorem expr_brace :
    expr limits depth ('\x7b' :: s) = some (e, rest) ↔
      ∃ inner bindings, depth = inner + 1 ∧ e = .table bindings
        ∧ (skipBlanks s = '\x7d' :: rest ∧ bindings = []
          ∨ (∀ next, skipBlanks s ≠ '\x7d' :: next)
            ∧ tableBindings limits (expr limits inner) (s.length + 1) (skipBlanks s) =
              some (bindings, rest)) := by
  rw [expr.eq_def]
  cases depth with
  | zero => simp
  | succ inner =>
    dsimp only
    rw [if_neg (by decide), if_neg (by decide), if_pos rfl]
    split
    · grind
    · simp only [Option.map_eq_some_iff]
      grind

section Inner

variable {wideDepth : Nat} (hdepth : depth ≤ wideDepth)
  (hinner : ∀ inner wideInner, depth = inner + 1 → wideDepth = wideInner + 1 →
    Restricts (expr limits inner) (expr wide wideInner) (Expr.Within limits inner))
include hdepth hinner

theorem expr_bracket_restricts :
    expr limits depth ('[' :: s) = some (e, rest) ↔
      expr wide wideDepth ('[' :: s) = some (e, rest) ∧ e.Within limits depth := by
  rw [expr_bracket, expr_bracket]
  constructor
  · rintro ⟨inner, items, rfl, rfl, hitems⟩
    obtain ⟨wideInner, rfl⟩ := Nat.exists_eq_add_one_of_ne_zero (Nat.ne_zero_of_lt hdepth)
    obtain ⟨hitems, hall⟩ := (restricts_arrayItems (hinner _ _ rfl rfl) _ _ _ _).mp hitems
    exact ⟨⟨wideInner, items, rfl, rfl, hitems⟩, .array hall⟩
  · rintro ⟨⟨wideInner, items, rfl, rfl, hitems⟩, hwithin⟩
    cases hwithin with
    | @array inner _ hall =>
      exact ⟨inner, items, rfl, rfl,
        (restricts_arrayItems (hinner _ _ rfl rfl) _ _ _ _).mpr ⟨hitems, hall⟩⟩

theorem expr_brace_restricts (h : wide.Wider limits) :
    expr limits depth ('\x7b' :: s) = some (e, rest) ↔
      expr wide wideDepth ('\x7b' :: s) = some (e, rest) ∧ e.Within limits depth := by
  rw [expr_brace, expr_brace]
  constructor
  · rintro ⟨inner, bindings, rfl, rfl, ⟨hend, rfl⟩ | ⟨hmore, hbindings⟩⟩ <;>
      obtain ⟨wideInner, rfl⟩ := Nat.exists_eq_add_one_of_ne_zero (Nat.ne_zero_of_lt hdepth)
    · exact ⟨⟨wideInner, [], rfl, rfl, .inl ⟨hend, rfl⟩⟩, .table nofun nofun⟩
    · obtain ⟨hbindings, hall⟩ :=
        (restricts_tableBindings h (hinner _ _ rfl rfl) _ _ _ _).mp hbindings
      exact ⟨⟨wideInner, bindings, rfl, rfl, .inr ⟨hmore, hbindings⟩⟩,
        .table (fun b hb => (hall b hb).1) fun b hb => (hall b hb).2⟩
  · rintro ⟨⟨wideInner, bindings, rfl, rfl, hbindings⟩, hwithin⟩
    cases hwithin with
    | @table inner _ hkeys hvalues =>
      refine ⟨inner, bindings, rfl, rfl, hbindings.imp_right fun ⟨hmore, hbindings⟩ => ?_⟩
      exact ⟨hmore, (restricts_tableBindings h (hinner _ _ rfl rfl) _ _ _ _).mpr
        ⟨hbindings, fun b hb => ⟨hkeys b hb, hvalues b hb⟩⟩⟩

end Inner

/-- Arrays, tables and what they hold are read one level further down. -/
theorem restricts_expr (h : wide.Wider limits) {wideDepth : Nat} (hdepth : depth ≤ wideDepth) :
    Restricts (expr limits depth) (expr wide wideDepth) (Expr.Within limits depth) := by
  induction depth using Nat.strongRecOn generalizing wideDepth with
  | ind depth ih =>
    intro s e rest
    have hinner : ∀ inner wideInner, depth = inner + 1 → wideDepth = wideInner + 1 →
        Restricts (expr limits inner) (expr wide wideInner) (Expr.Within limits inner) := by
      rintro inner wideInner rfl rfl
      exact ih inner (Nat.lt_succ_self inner) (Nat.le_of_succ_le_succ hdepth)
    cases s with
    | nil => simp [expr.eq_def]
    | cons c s =>
      by_cases hbracket : c = '['
      · rw [hbracket]
        exact expr_bracket_restricts hdepth hinner
      by_cases hbrace : c = '\x7b'
      · rw [hbrace]
        exact expr_brace_restricts hdepth hinner h
      rw [expr.eq_def, expr.eq_def wide]
      dsimp only
      rw [if_neg hbracket, if_neg hbrace, if_neg hbracket, if_neg hbrace]
      split
      · -- A string is within all limits.
        simp only [Option.map_eq_some_iff, iff_self_and]
        rintro ⟨⟨text, after⟩, -, heq⟩
        obtain ⟨rfl, -⟩ := Prod.mk.inj heq
        exact .string depth text
      · simp only [Option.map_eq_some_iff, scalar?_eq_some_iff h depth]
        grind

end Expressions

/-! ## Documents -/

section Documents

variable {limits wide : Limits}

theorem restricts_statement (h : wide.Wider limits) :
    Restricts (statement limits) (statement wide) (Statement.Within limits) := by
  have hkey := restricts_key h
  have hbinding := restricts_binding h (restricts_expr h h.nesting)
  intro s st rest
  rw [statement.eq_def, statement.eq_def wide]
  split
  · simp only [Option.bind_eq_bind, Option.bind_eq_some_iff, Prod.exists, hkey _ _ _]
    grind [Statement.Within]
  · simp only [Option.bind_eq_bind, Option.bind_eq_some_iff, Prod.exists, hkey _ _ _]
    grind [Statement.Within]
  · simp only [Option.bind_eq_bind, Option.bind_eq_some_iff, Prod.exists, hbinding _ _ _, Bound]
    grind [Statement.Within]

theorem statements_succ {limit : Nat} {s : List Char} {sts : List Statement} :
    statements limits (limit + 1) s = some sts ↔
      skipGaps false s = [] ∧ sts = []
        ∨ skipGaps false s ≠ [] ∧ ∃ first rest others,
          statement limits (skipGaps false s) = some (first, rest)
            ∧ statements limits limit rest = some others ∧ sts = first :: others := by
  rw [statements]
  split
  · next hend => grind
  · next hmore =>
    simp only [Option.bind_eq_bind, Option.bind_eq_some_iff, Prod.exists]
    grind

theorem statements_restrict (h : wide.Wider limits) {limit : Nat} {s : List Char}
    {sts : List Statement} :
    statements limits limit s = some sts ↔
      statements wide limit s = some sts ∧ ∀ st ∈ sts, st.Within limits := by
  induction limit generalizing s sts with
  | zero => exact ⟨nofun, fun h => h.1⟩
  | succ limit ih =>
    simp only [statements_succ, restricts_statement h _ _ _, ih]
    grind

namespace Document

variable {text : String} {sts : List Statement}

def Within (limits : Limits) (sts : List Statement) : Prop :=
  ∀ st ∈ sts, st.Within limits

/-- Under some limits a text gives the statements that it gives under wider ones, if they are
within the limits, and otherwise none. -/
theorem statementsOf_iff (h : wide.Wider limits) :
    statementsOf limits text = some sts ↔
      statementsOf wide text = some sts ∧ Within limits sts :=
  statements_restrict h

/-- What a text gives under any limits, it gives under others that this is within. -/
theorem statementsOf_of_within (h : statementsOf wide text = some sts)
    (hwithin : Within limits sts) : statementsOf limits text = some sts := by
  obtain ⟨hjoin, -⟩ := (statementsOf_iff (limits.join_wider_right wide)).mp h
  exact (statementsOf_iff (limits.join_wider_left wide)).mpr ⟨hjoin, hwithin⟩

/-- What a text gives under two limits is the same. -/
theorem statementsOf_unique {found : List Statement} (h : statementsOf wide text = some sts)
    (hfound : statementsOf limits text = some found) : found = sts ∧ Within limits sts := by
  obtain ⟨hjoin, -⟩ := (statementsOf_iff (limits.join_wider_right wide)).mp h
  obtain ⟨hjoin', hwithin⟩ := (statementsOf_iff (limits.join_wider_left wide)).mp hfound
  obtain rfl := Option.some.inj (hjoin.symm.trans hjoin')
  exact ⟨rfl, hwithin⟩

/-- A text is written as a document with these statements, however large it is, and they give
this table. -/
structure Says (text : String) (sts : List Statement) (t : Table) : Prop where
  written : ∃ limits, statementsOf limits text = some sts
  table : carryOut sts = some t

variable {t : Table}

theorem Says.read_eq_none (h : Says text sts t) (hbeyond : ¬Within .usual sts) :
    read text = none := by
  obtain ⟨wide, hwide⟩ := h.written
  have hnone : statementsOf .usual text = none :=
    Option.eq_none_iff_forall_ne_some.mpr fun found hfound =>
      hbeyond (statementsOf_unique hwide hfound).2
  rw [read, hnone]
  rfl

/-- The documents that are read are the ones within the usual limits. -/
theorem read_eq_some_iff : read text = some t ↔ ∃ sts, Says text sts t ∧ Within .usual sts := by
  rw [read, Option.bind_eq_some_iff]
  constructor
  · rintro ⟨sts, hread, htable⟩
    exact ⟨sts, ⟨⟨.usual, hread⟩, htable⟩, (statementsOf_unique hread hread).2⟩
  · rintro ⟨sts, ⟨⟨wide, hwide⟩, htable⟩, hwithin⟩
    exact ⟨sts, statementsOf_of_within hwide hwithin, htable⟩

end Document

end Documents

end GadgetModes.Toml
