import Mathlib.Data.List.Induction
import GadgetModes.Proofs.Catalog.Instances

/-!
# Caches

The cache of an instance is private to it. After any history it is the cache that the instance
began with, with the changes that were made through handles on this very instance, in their
order (`StoreSession.record?_runs_iff`); a copy begins with the cache that its original had
when it was copied, every other instance with an empty one. Whoever holds on to a catalog
shares its instances with the readers of the active one, until another catalog is put in its
place.
-/

namespace GadgetModes

open GadgetModes.Log GadgetModes.Mode

namespace StoreSession

/-! ## Histories -/

/-- The changes that moves make to the cache of an instance, in order. -/
def changesOf (inst : Instance) :
    StoreSession → List CacheMove → List (NetworkCache → NetworkCache)
  | _, [] => []
  | s, m :: moves => (s.effect m).changesOf inst ++ changesOf inst (s.run m) moves

/-- How an instance comes to be, with the record that it starts as: it was there from the
start; it is one of a catalog that was put in the place of the active one; or it is a copy of
an instance as it was then. -/
inductive Begins (s₀ : StoreSession) : List CacheMove → Instance → Record → Prop
  | start {inst : Instance} {r : Record} (h : s₀.record? inst = some r) : Begins s₀ [] inst r
  | built {before : List CacheMove} {m : CacheMove} {next : Catalog} {i : Nat} {r : Record}
      (heffect : (s₀.runs before).effect m = .replace next) (hr : next.modes[i]? = some r) :
      Begins s₀ (before ++ [m]) (.inCatalog ((s₀.runs before).store.generation + 1) i) r
  | copied {before : List CacheMove} {m : CacheMove} {original : Instance} {r : Record}
      (heffect : (s₀.runs before).effect m = .copy original)
      (hr : (s₀.runs before).record? original = some r) :
      Begins s₀ (before ++ [m]) (.copy (s₀.runs before).copies.length) r

theorem runs_cons (s : StoreSession) (m : CacheMove) (moves : List CacheMove) :
    s.runs (m :: moves) = (s.run m).runs moves :=
  rfl

theorem runs_append (s : StoreSession) (before after : List CacheMove) :
    s.runs (before ++ after) = (s.runs before).runs after :=
  List.foldl_append

theorem record?_runs_of_some {s : StoreSession} {inst : Instance} {r : Record}
    (h : s.record? inst = some r) (moves : List CacheMove) :
    (s.runs moves).record? inst = some (r.applied (s.changesOf inst moves)) := by
  induction moves generalizing s r with
  | nil => exact h
  | cons m moves ih =>
      have hnext := ih (record?_run_of_some h m)
      rw [← Record.applied_append] at hnext
      exact hnext

theorem changesOf_append (inst : Instance) (s : StoreSession) (before after : List CacheMove) :
    s.changesOf inst (before ++ after) =
      s.changesOf inst before ++ (s.runs before).changesOf inst after := by
  induction before generalizing s with
  | nil => rfl
  | cons m before ih =>
      rw [List.cons_append, changesOf, changesOf, ih, List.append_assoc]
      rfl

theorem Begins.record? {s₀ : StoreSession} {moves : List CacheMove} {inst : Instance} {r : Record}
    (h : s₀.Begins moves inst r) : (s₀.runs moves).record? inst = some r := by
  cases h with
  | start h => exact h
  | @built before m next i r heffect hr =>
      rw [runs_append, runs, List.foldl_cons, List.foldl_nil, record?_run, heffect, carryOut,
        StoreSession.record?, Store.catalog?_replace_eq, if_pos rfl]
      exact hr
  | @copied before m original r heffect hr =>
      rw [runs_append, runs, List.foldl_cons, List.foldl_nil, record?_run, heffect, carryOut,
        StoreSession.record?, hr]
      simp

/-- What an instance is after a history: what it began as, with the changes that were made to
its own cache since. -/
theorem record?_runs_iff (s₀ : StoreSession) (moves : List CacheMove) (inst : Instance)
    (r : Record) :
    (s₀.runs moves).record? inst = some r ↔
      ∃ before after r₀, moves = before ++ after ∧ s₀.Begins before inst r₀
        ∧ r = r₀.applied ((s₀.runs before).changesOf inst after) := by
  constructor
  · intro h
    induction moves using List.reverseRecOn generalizing r with
    | nil => exact ⟨[], [], r, rfl, .start h, rfl⟩
    | append_singleton moves m ih =>
        rw [runs_append, runs, List.foldl_cons, List.foldl_nil] at h
        cases hbefore : (s₀.runs moves).record? inst with
        | some r' =>
            obtain ⟨before, after, r₀, rfl, hbegins, hr'⟩ := ih r' hbefore
            rw [record?_run_of_some hbefore m] at h
            refine ⟨before, after ++ [m], r₀, (List.append_assoc ..), hbegins, ?_⟩
            rw [changesOf_append, Record.applied_append, ← hr', ← runs_append]
            simpa [changesOf] using (Option.some.inj h).symm
        | none =>
            rcases record?_run_of_none hbefore h with ⟨next, i, heffect, rfl, hr⟩ |
              ⟨original, heffect, rfl, hr⟩
            · exact ⟨_, [], r, (List.append_nil _).symm, .built heffect hr, rfl⟩
            · exact ⟨_, [], r, (List.append_nil _).symm, .copied heffect hr, rfl⟩
  · rintro ⟨before, after, r₀, rfl, hbegins, rfl⟩
    rw [runs_append]
    exact record?_runs_of_some hbegins.record? after

/-! ## What readers see -/

/-- A change of one cache leaves what is fixed of every catalog. -/
theorem fixed_modifyInstance (s : StoreSession) (f : NetworkCache → NetworkCache)
    (inst : Instance) (g : Nat) :
    ((s.modifyInstance (Record.updateCache f) inst).store.catalog? g).map Catalog.fixed =
      (s.store.catalog? g).map Catalog.fixed := by
  cases inst with
  | inCatalog g' i =>
      rw [modifyInstance, Store.catalog?_modify]
      split
      · rw [Option.map_map]
        exact Option.map_congr fun c _ =>
          Catalog.fixed_modify (f := Record.updateCache f) (fun _ => rfl) c i
      · rfl
  | copy i => rfl

/-- Where handles lead to depends on what is fixed. -/
theorem reached?_congr {s s' : StoreSession} {g : Nat}
    (h : (s'.store.catalog? g).map Catalog.fixed = (s.store.catalog? g).map Catalog.fixed)
    (handle : Catalog.Handle) : s'.reached? g handle = s.reached? g handle := by
  rw [reached?, reached?]
  cases hc : s.store.catalog? g with
  | none =>
      rw [hc, Option.map_none, Option.map_eq_none_iff] at h
      rw [h]
  | some c =>
      rw [hc] at h
      obtain ⟨c', hc', hfixed⟩ := Option.map_eq_some_iff.mp h
      rw [hc', Option.bind_some, Option.bind_some]
      cases handle with
      | named name => simp only [Catalog.position?_congr hfixed]
      | position i => rfl
      | copy i => rfl

/-- A handle leads into the catalog that it is followed from. -/
theorem generation_of_reached? {s : StoreSession} {g g' p : Nat} {handle : Catalog.Handle}
    (h : s.reached? g handle = some (.inCatalog g' p)) : g = g' := by
  obtain ⟨c, -, h⟩ := Option.bind_eq_some_iff.mp h
  cases handle with
  | named name =>
      obtain ⟨i, -, h⟩ := Option.map_eq_some_iff.mp h
      exact (Instance.inCatalog.inj h).1
  | position i => exact (Instance.inCatalog.inj (Option.some.inj h)).1
  | copy i => cases h

theorem reached?_updateAt (s : StoreSession) (g g' : Nat) (handle handle' : Catalog.Handle)
    (f : NetworkCache → NetworkCache) :
    (s.updateAt g handle f).reached? g' handle' = s.reached? g' handle' := by
  rw [updateAt_eq]
  cases s.reached? g handle with
  | none => rfl
  | some inst => exact reached?_congr (s.fixed_modifyInstance f inst g') handle'

theorem instance?_eq {s : StoreSession} {g : Nat} {c : Catalog} (hc : s.store.catalog? g = some c)
    (handle : Catalog.Handle) :
    c.instance? s.copies handle = (s.reached? g handle).bind s.record? := by
  rw [reached?, hc, Option.bind_some]
  cases handle with
  | named name =>
      rw [Catalog.instance?, Catalog.lookup, Option.bind_map]
      simp [record?, hc, Function.comp_def]
  | position i => simp [Catalog.instance?, record?, hc]
  | copy i => rfl

theorem answer_cache {s : StoreSession} {g : Nat} {c : Catalog} (hc : s.store.catalog? g = some c)
    (handle : Catalog.Handle) (change : Catalog.CacheChange) :
    (s.ask g (.cache handle change)).1 =
      .ofCache? ((s.reached? g handle).bind (s.ask g (.cache handle change)).2.record?) := by
  have hreached : (s.ask g (.cache handle change)).2.reached? g handle = s.reached? g handle := by
    rw [ask_cache, reached?_updateAt]
  have hafter : (s.ask g (.cache handle change)).2.store.catalog? g =
      some (c.change s.copies change.apply handle).1 := by
    rw [ask, hc]
    simp only [Catalog.answer, Store.catalog?_modify, if_true, hc, Option.map_some]
  rw [← hreached, ← instance?_eq hafter, ask, hc]
  rfl

theorem generation_run (s : StoreSession) (m : CacheMove) :
    (s.run m).store.generation = s.store.generation + if m.replaces then 1 else 0 := by
  cases m with
  | update held? handle f =>
      rw [run]
      cases s.generation? held? with
      | none => rfl
      | some g =>
          rw [Option.elim_some, updateAt]
          split
          · rfl
          · exact s.store.generation_modify g _
  | store move =>
      cases hm : move.replaces with
      | false =>
          rw [CacheMove.replaces, hm]
          exact generation_move hm
      | true =>
          rw [CacheMove.replaces, hm]
          cases move with
          | changeFiles change => cases hm
          | ask request =>
              cases request with
              | reload d => exact List.length_append
              | release => exact List.length_append
              | _ => cases hm

theorem held_run (s : StoreSession) (m : CacheMove) : s.held <+: (s.run m).held := by
  cases m with
  | store move => exact (s.continues_move move).held
  | update held? handle f =>
      rw [run]
      cases s.generation? held? with
      | none => exact List.prefix_refl _
      | some g =>
          rw [Option.elim_some, updateAt]
          split <;> exact List.prefix_refl _

theorem held_runs (s : StoreSession) (moves : List CacheMove) : s.held <+: (s.runs moves).held := by
  induction moves generalizing s with
  | nil => exact List.prefix_refl _
  | cons m moves ih => exact (s.held_run m).trans (ih (s.run m))

theorem generation_le_runs (s : StoreSession) (moves : List CacheMove) :
    s.store.generation ≤ (s.runs moves).store.generation := by
  induction moves generalizing s with
  | nil => exact Nat.le_refl _
  | cons m moves ih =>
    refine Nat.le_trans ?_ (ih (s.run m))
    rw [generation_run]
    exact Nat.le_add_right _ _

theorem generation_runs {s : StoreSession} {moves : List CacheMove}
    (h : ∀ m ∈ moves, m.replaces = false) :
    (s.runs moves).store.generation = s.store.generation := by
  induction moves generalizing s with
  | nil => rfl
  | cons m moves ih =>
    refine (ih (s := s.run m) fun m hm => h m (List.mem_cons_of_mem _ hm)).trans ?_
    rw [generation_run, h m (List.mem_cons_self ..)]
    rfl

theorem generation?_runs {s : StoreSession} {i g : Nat} (h : s.generation? (some i) = some g)
    (moves : List CacheMove) :
    (s.runs moves).generation? (some i) = some g := by
  obtain ⟨hi, rfl⟩ := List.getElem?_eq_some_iff.mp h
  exact List.prefix_iff_getElem?.mp (s.held_runs moves) i hi

/-! ## Private caches -/

/-- Nothing is applied for the modes of a catalog that is put in place. -/
theorem fixed_of_effect {s : StoreSession} {m : CacheMove} {next : Catalog}
    (h : s.effect m = .replace next) : next.fixed = next := by
  have hon : ∀ {held? handle} {effect : Instance → Effect}, (∀ i, effect i ≠ .replace next) →
      s.effectOn held? handle effect ≠ .replace next := by
    intro held? handle effect heffect
    rw [effectOn]
    cases s.seen? held? handle with
    | none => exact Effect.noConfusion
    | some inst => exact heffect inst
  have hrequest : ∀ {held? request}, s.effectOfRequest held? request ≠ .replace next := by
    intro held? request
    cases request with
    | cache handle change => exact hon fun _ => Effect.noConfusion
    | duplicate name => exact hon fun _ => Effect.noConfusion
    | cloneCopy i => exact hon fun _ => Effect.noConfusion
    | _ => exact Effect.noConfusion
  cases m with
  | update held? handle f => exact absurd h (hon fun _ => Effect.noConfusion)
  | store move =>
      cases move with
      | changeFiles change => cases h
      | ask request =>
          cases request with
          | reload d =>
              obtain rfl := Effect.replace.inj h
              exact Catalog.fixed_build ..
          | release =>
              obtain rfl := Effect.replace.inj h
              exact Catalog.fixed_empty
          | active request => exact absurd h hrequest
          | onHeld i request => exact absurd h hrequest
          | _ => cases h

theorem cache_of_fixed {c : Catalog} (h : c.fixed = c) {i : Nat} {r : Record}
    (hr : c.modes[i]? = some r) : r.cache = {} := by
  rw [← h, Catalog.fixed, Array.getElem?_map] at hr
  obtain ⟨r', -, rfl⟩ := Option.map_eq_some_iff.mp hr
  rfl

/-- An instance that was not there from the start begins with an empty cache, or as the copy of
another one as that is then. -/
theorem Begins.there_or_empty_or_copy {s₀ : StoreSession} {moves : List CacheMove}
    {inst : Instance} {r : Record} (h : s₀.Begins moves inst r) :
    (moves = [] ∧ s₀.record? inst = some r) ∨ r.cache = {} ∨ ∃ before m original,
      moves = before ++ [m] ∧ (s₀.runs before).effect m = .copy original
        ∧ (s₀.runs before).record? original = some r := by
  cases h with
  | start h => exact .inl ⟨rfl, h⟩
  | built heffect hr => exact .inr (.inl (cache_of_fixed (fixed_of_effect heffect) hr))
  | copied heffect hr => exact .inr (.inr ⟨_, _, _, rfl, heffect, hr⟩)

/-- The records that a new store begins with have empty caches. -/
theorem cache_of_record?_start {scanner : Scanner} {files : FileSystem} {load? : Option Bool}
    {inst : Instance} {r : Record} (h : (start scanner files load?).record? inst = some r) :
    r.cache = {} := by
  cases inst with
  | inCatalog g i =>
      obtain ⟨c, hc, hr⟩ := Option.bind_eq_some_iff.mp h
      exact cache_of_fixed (untouched_start scanner files load? g c hc) hr
  | copy i => cases load? <;> cases h

/-- A store in use whose active catalog is made of given records. -/
def given (scanner : Scanner) (files : FileSystem) (records : List Record) (diagnostic : Bool) :
    StoreSession where
  store := { scanner, active := Catalog.ofRecords records diagnostic }
  files := files

theorem mem_of_record?_given {scanner : Scanner} {files : FileSystem} {records : List Record}
    {diagnostic : Bool} {inst : Instance} {r : Record}
    (h : (given scanner files records diagnostic).record? inst = some r) : r ∈ records := by
  cases inst with
  | inCatalog g i =>
      obtain ⟨c, hc, hr⟩ := Option.bind_eq_some_iff.mp h
      obtain rfl := List.mem_singleton.mp (List.mem_of_getElem? hc)
      exact (Catalog.perm_ofRecords records diagnostic).mem_iff.mp
        (Array.mem_toList_iff.mpr (Array.mem_of_getElem? hr))
  | copy i => cases h

/-- What holds of the caches in a store in use, whatever happened to it. -/
structure Private (s : StoreSession) : Prop where
  /-- What is told of a cache is the cache of the instance that the handle leads to. -/
  told : ∀ (g : Nat) (c : Catalog) (handle : Catalog.Handle) (change : Catalog.CacheChange),
    s.store.catalog? g = some c → (s.ask g (.cache handle change)).1 =
      .ofCache? ((s.reached? g handle).bind (s.ask g (.cache handle change)).2.record?)
  /-- Whoever holds on to the active catalog sees its instances, until another one is active. -/
  shared : ∀ after : List CacheMove, (∀ m ∈ after, m.replaces = false) → ∀ handle,
    ((s.run (.store (.ask .hold))).runs after).seen? (some s.held.length) handle =
      ((s.run (.store (.ask .hold))).runs after).seen? none handle
  /-- From then on the two have no instance in common but the copies. -/
  parted : ∀ (before : List CacheMove) (m : CacheMove) (after : List CacheMove),
    m.replaces = true → ∀ handle handle' inst,
      ((s.run (.store (.ask .hold))).runs (before ++ m :: after)).seen? (some s.held.length)
          handle = some inst →
        ((s.run (.store (.ask .hold))).runs (before ++ m :: after)).seen? none handle' =
          some inst → ∃ i, inst = .copy i
  /-- A change of a cache leaves the names in their order, what handles lead to, and all that
  is fixed of the records. -/
  fixed : ∀ (m : CacheMove) (inst : Instance) (f : NetworkCache → NetworkCache),
    s.effect m = .change inst f →
      (∀ g, ((s.run m).store.catalog? g).map Catalog.names =
          (s.store.catalog? g).map Catalog.names)
        ∧ (∀ g handle, (s.run m).reached? g handle = s.reached? g handle)
        ∧ ∀ inst', ((s.run m).record? inst').map Record.clearCache =
            (s.record? inst').map Record.clearCache

theorem generation?_run_hold (s : StoreSession) :
    (s.run (.store (.ask .hold))).generation? (some s.held.length) =
      some s.store.generation := by
  simp [run, StoreSession.move, step, generation?]

/-- An instance that is seen in a catalog is seen from the catalog of its generation. -/
theorem generation?_of_seen? {s : StoreSession} {held? : Option Nat} {handle : Catalog.Handle}
    {g p : Nat} (h : s.seen? held? handle = some (.inCatalog g p)) :
    s.generation? held? = some g := by
  obtain ⟨g', hg', h⟩ := Option.bind_eq_some_iff.mp h
  rw [hg', generation_of_reached? h]

theorem private_of (s : StoreSession) : s.Private where
  told := fun _ _ handle change hc => answer_cache hc handle change
  shared := by
    intro after hafter handle
    rw [seen?, seen?, generation?_runs s.generation?_run_hold, generation?,
      generation_runs hafter]
    rfl
  parted := by
    intro before m after hm handle handle' inst hseen hsame
    cases inst with
    | copy i => exact ⟨i, rfl⟩
    | inCatalog g p =>
        have hold := generation?_of_seen? hseen
        rw [generation?_runs s.generation?_run_hold] at hold
        have hnew := generation?_of_seen? hsame
        rw [← Option.some.inj hold, generation?, Option.some.injEq, runs_append,
          runs_cons] at hnew
        have hbefore := (s.run (.store (.ask .hold))).generation_le_runs before
        have hafter :=
          (((s.run (.store (.ask .hold))).runs before).run m).generation_le_runs after
        rw [generation_run, hm, if_pos rfl, hnew] at hafter
        rw [generation_run] at hbefore
        omega
  fixed := by
    intro m inst f heffect
    have hcatalogs : ∀ g, ((s.run m).store.catalog? g).map Catalog.fixed =
        (s.store.catalog? g).map Catalog.fixed := by
      intro g
      rw [(s.run_eq m).1, heffect]
      exact s.fixed_modifyInstance f inst g
    refine ⟨fun g => ?_, fun g handle => reached?_congr (hcatalogs g) handle, fun inst' => ?_⟩
    · have hnames := congrArg (Option.map Catalog.names) (hcatalogs g)
      simpa only [Option.map_map, Function.comp_def, Catalog.names_fixed] using hnames
    · rw [record?_run, heffect, carryOut, record?_modifyInstance]
      split
      · rw [Option.map_map]
        rfl
      · rfl

/-- Of a store in use, every instance is what it began as, with the changes that were made to
its own cache since. It began with an empty cache, or as a copy. A catalog that is held on to
shares its instances with the active one until another is active, and no change of a cache
touches anything but that cache. The same holds if there were given records to begin with; they
keep what they came with. -/
theorem private_caches (scanner : Scanner) (files : FileSystem) (load? : Option Bool)
    (moves : List CacheMove) :
    (∀ inst r, ((start scanner files load?).runs moves).record? inst = some r ↔
        ∃ before after r₀, moves = before ++ after
          ∧ (start scanner files load?).Begins before inst r₀
          ∧ r = r₀.applied (((start scanner files load?).runs before).changesOf inst after))
      ∧ (∀ inst r, (start scanner files load?).Begins moves inst r →
        r.cache = {} ∨ ∃ before m original, moves = before ++ [m]
          ∧ ((start scanner files load?).runs before).effect m = .copy original
          ∧ ((start scanner files load?).runs before).record? original = some r)
      ∧ ((start scanner files load?).runs moves).Private
      ∧ ∀ (records : List Record) (diagnostic : Bool),
        (∀ inst r, ((given scanner files records diagnostic).runs moves).record? inst = some r ↔
            ∃ before after r₀, moves = before ++ after
              ∧ (given scanner files records diagnostic).Begins before inst r₀
              ∧ r = r₀.applied
                (((given scanner files records diagnostic).runs before).changesOf inst after))
          ∧ (∀ inst r, (given scanner files records diagnostic).Begins moves inst r →
            moves = [] ∧ r ∈ records ∨ r.cache = {} ∨ ∃ before m original, moves = before ++ [m]
              ∧ ((given scanner files records diagnostic).runs before).effect m = .copy original
              ∧ ((given scanner files records diagnostic).runs before).record? original = some r)
          ∧ ((given scanner files records diagnostic).runs moves).Private := by
  refine ⟨record?_runs_iff _ moves, fun inst r h => ?_, private_of _, ?_⟩
  · rcases h.there_or_empty_or_copy with ⟨-, h⟩ | h
    · exact .inl (cache_of_record?_start h)
    · exact h
  · intro records diagnostic
    refine ⟨record?_runs_iff _ moves, fun inst r h => ?_, private_of _⟩
    exact h.there_or_empty_or_copy.imp_left fun ⟨hmoves, h⟩ => ⟨hmoves, mem_of_record?_given h⟩

/-- A mode is copied after its address was set, gets a gateway through the held catalog, and
is built anew. -/
def copiedAndRebuilt : List CacheMove :=
  [.store (.ask .hold),
    .update none (.named "M") fun c => { c with ip := some "10.0.0.1" },
    .store (.ask (.active (.duplicate "M"))),
    .update (some 0) (.position 0) fun c => { c with gateway := some "10.0.0.2" },
    .store (.ask (.reload false))]

def addressed : Record where
  source := "m.ini"
  fields := { name := some "M", module := some "g" }
  sound := rfl
  cache := { ip := some "10.0.0.1" }

/-- The held mode has both, its copy what was there before, the new mode nothing. A copy of a given
mode has the address that this came with. -/
theorem private_caches_copiedAndRebuilt :
    (∃ s, (start (Catalog.scannerOf "a") Catalog.besideDirectory (some false)).runs
          copiedAndRebuilt = s
        ∧ (s.ask 1 (.cache (.named "M") .keep)).1 =
          .cache { ip := some "10.0.0.1", gateway := some "10.0.0.2" }
        ∧ (s.ask 1 (.cache (.copy 0) .keep)).1 = .cache { ip := some "10.0.0.1" }
        ∧ (s.ask 2 (.cache (.named "M") .keep)).1 = .cache {})
      ∧ ∃ s, (given (Catalog.scannerOf "a") Catalog.besideDirectory [addressed] false).runs
          [.store (.ask (.active (.duplicate "M")))] = s
        ∧ (s.ask 0 (.cache (.copy 0) .keep)).1 = .cache { ip := some "10.0.0.1" } := by
  have htold := (private_caches (Catalog.scannerOf "a") Catalog.besideDirectory (some false)
    copiedAndRebuilt).2.2.1.told
  have htoldGiven := ((private_caches (Catalog.scannerOf "a") Catalog.besideDirectory none
    [.store (.ask (.active (.duplicate "M")))]).2.2.2 [addressed] false).2.2.told
  obtain ⟨held, hheld⟩ := Option.isSome_iff_exists.mp (show
    (((start (Catalog.scannerOf "a") Catalog.besideDirectory (some false)).runs
      copiedAndRebuilt).store.catalog? 1).isSome by decide +kernel)
  obtain ⟨rebuilt, hrebuilt⟩ := Option.isSome_iff_exists.mp (show
    (((start (Catalog.scannerOf "a") Catalog.besideDirectory (some false)).runs
      copiedAndRebuilt).store.catalog? 2).isSome by decide +kernel)
  obtain ⟨ofGiven, hgiven⟩ := Option.isSome_iff_exists.mp (show
    (((given (Catalog.scannerOf "a") Catalog.besideDirectory [addressed] false).runs
      [.store (.ask (.active (.duplicate "M")))]).store.catalog? 0).isSome by decide +kernel)
  refine ⟨⟨_, rfl, ?_, ?_, ?_⟩, _, rfl, ?_⟩
  · rw [htold 1 held _ _ hheld]
    decide +kernel
  · rw [htold 1 held _ _ hheld]
    decide +kernel
  · rw [htold 2 rebuilt _ _ hrebuilt]
    decide +kernel
  · rw [htoldGiven 0 ofGiven _ _ hgiven]
    decide +kernel

end StoreSession

end GadgetModes
