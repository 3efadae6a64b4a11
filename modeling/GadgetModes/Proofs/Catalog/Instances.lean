import GadgetModes.Proofs.Catalog.Snapshots

/-!
# Instances

A record in memory is an instance: one at a position of a catalog, or a copy that someone
has. A handle leads to an instance from a catalog, and whatever moves do to a store in use, they
do to instances: they put a catalog of new ones in the place of the active one, copy one, or
change the cache of one (`StoreSession.run_eq`). All others stay what they are
(`StoreSession.record?_run_of_some`).
-/

namespace GadgetModes

open GadgetModes.Log GadgetModes.Mode

/-! ## Changes of a cache -/

namespace Mode.Record

def applied (changes : List (NetworkCache → NetworkCache)) (r : Record) : Record :=
  r.updateCache fun c => changes.foldl (fun c f => f c) c

theorem applied_append (fs gs : List (NetworkCache → NetworkCache)) (r : Record) :
    r.applied (fs ++ gs) = (r.applied fs).applied gs := by
  simp [applied, updateCache, List.foldl_append]

end Mode.Record

namespace Catalog

def CacheChange.onCache : CacheChange → NetworkCache → NetworkCache
  | keep, c => c
  | clear, _ => {}
  | set fields, c => fields.foldl (fun c (field, v) => field.set v c) c

theorem CacheChange.apply_eq (change : CacheChange) :
    change.apply = Record.updateCache change.onCache := by
  funext r
  cases change <;> rfl

theorem getElem?_modify (c : Catalog) (i j : Nat) (f : Record → Record) :
    (c.modify i f).modes[j]? = if i = j then c.modes[j]?.map f else c.modes[j]? := by
  rw [modify, Array.getElem?_modify]

theorem partitionPoint_congr {before : Record → Bool} {modes modes' : Array Record}
    (h : ∀ i : Nat, modes'[i]?.any before = modes[i]?.any before) (lo hi : Nat) :
    partitionPoint before modes' lo hi = partitionPoint before modes lo hi := by
  fun_induction partitionPoint before modes lo hi with
  | case1 lo hi hlt mid hbefore ih =>
      rw [partitionPoint, if_pos hlt, if_pos ((h mid).trans hbefore), ih]
  | case2 lo hi hlt mid hbefore ih =>
      rw [partitionPoint, if_pos hlt, if_neg (by rw [h]; exact hbefore), ih]
  | case3 lo hi hlt => rw [partitionPoint, if_neg hlt]

/-- Where a name is found depends on what is fixed. -/
theorem position?_congr {c c' : Catalog} (h : c'.fixed = c.fixed) (name : String) :
    c'.position? name = c.position? name := by
  have hmodes : c'.modes.map Record.clearCache = c.modes.map Record.clearCache :=
    congrArg Catalog.modes h
  have hany : ∀ (p : String → Bool) (i : Nat),
      c'.modes[i]?.any (fun m => p m.name) = c.modes[i]?.any (fun m => p m.name) := by
    intro p i
    have hi := congrArg (fun modes : Array Record => modes[i]?.any fun m => p m.name) hmodes
    simp only [Array.getElem?_map, Option.any_map] at hi
    exact hi
  have hsize : c'.modes.size = c.modes.size := by
    simpa using congrArg Array.size hmodes
  rw [position?, position?, partitionPoint_congr (hany (Text.bytesLt · name)), hsize]
  simp only [hany (fun n => decide (n = name))]

end Catalog

namespace Store

theorem modify_congr {s : Store} {g : Nat} {f f' : Catalog → Catalog}
    (h : ∀ c, s.catalog? g = some c → f c = f' c) : s.modify g f = s.modify g f' := by
  rw [modify, modify]
  split
  · next hg =>
    rw [h _ (by rw [hg, catalog?_generation])]
  · next hg =>
    have hretired : s.retired.modify g f = s.retired.modify g f' := by
      apply List.ext_getElem?
      intro i
      rw [List.getElem?_modify, List.getElem?_modify]
      cases hc : s.retired[i]? with
      | none => rfl
      | some c =>
          by_cases hi : g = i
          · subst hi
            have hlt := (List.getElem?_eq_some_iff.mp hc).1
            simp [h c (by rw [catalog?, List.getElem?_append_left hlt, hc])]
          · simp [hi]
    rw [hretired]

theorem modify_id (s : Store) (g : Nat) : s.modify g id = s := by
  rw [modify, List.modify_id]
  split <;> rfl

theorem modify_self {s : Store} {g : Nat} {c : Catalog} (h : s.catalog? g = some c) :
    s.modify g (fun _ => c) = s :=
  (modify_congr fun _ hc' => Option.some.inj (h.symm.trans hc')).trans (s.modify_id g)

theorem catalog?_replace_eq (s : Store) (next : Catalog) (g : Nat) :
    (s.replace next).catalog? g =
      if g = s.generation + 1 then some next else s.catalog? g := by
  simp only [catalog?, replace, generation, List.getElem?_append, List.length_append,
    List.length_singleton]
  grind

end Store

/-! ## Instances -/

/-- A record in memory: one of a catalog, or a copy that someone has of one. -/
inductive Instance where
  | inCatalog (generation position : Nat)
  | copy (index : Nat)
deriving DecidableEq

namespace StoreSession

def record? (s : StoreSession) : Instance → Option Record
  | .inCatalog g i => (s.store.catalog? g).bind fun c => c.modes[i]?
  | .copy i => s.copies[i]?

/-- The instance that a handle leads to from a catalog. -/
def reached? (s : StoreSession) (g : Nat) (handle : Catalog.Handle) : Option Instance :=
  (s.store.catalog? g).bind fun c =>
    match handle with
    | .named name => (c.position? name).map (.inCatalog g)
    | .position i => some (.inCatalog g i)
    | .copy i => some (.copy i)

def modifyInstance (s : StoreSession) (f : Record → Record) : Instance → StoreSession
  | .inCatalog g i => { s with store := s.store.modify g fun c => c.modify i f }
  | .copy i => { s with copies := s.copies.modify i f }

/-- Changes the cache of the instance that a handle leads to from a catalog. -/
def updateAt (s : StoreSession) (g : Nat) (handle : Catalog.Handle)
    (f : NetworkCache → NetworkCache) : StoreSession :=
  match s.store.catalog? g with
  | none => s
  | some c =>
    let (changed, copies) := c.change s.copies (Record.updateCache f) handle
    { s with store := s.store.modify g fun _ => changed, copies }

variable {s : StoreSession} {inst : Instance}

theorem ask_cache (s : StoreSession) (g : Nat) (handle : Catalog.Handle)
    (change : Catalog.CacheChange) :
    (s.ask g (.cache handle change)).2 = s.updateAt g handle change.onCache := by
  rw [ask, updateAt]
  cases s.store.catalog? g with
  | none => rfl
  | some c => simp only [Catalog.answer, Catalog.CacheChange.apply_eq]

/-- A change through a handle is a change of the instance that it leads to. -/
theorem updateAt_eq (s : StoreSession) (g : Nat) (handle : Catalog.Handle)
    (f : NetworkCache → NetworkCache) :
    s.updateAt g handle f =
      (s.reached? g handle).elim s (s.modifyInstance (Record.updateCache f)) := by
  rw [updateAt, reached?]
  cases hc : s.store.catalog? g with
  | none => rfl
  | some c =>
      have hkept := Store.modify_self hc
      have hchanged : ∀ i, s.store.modify g (fun _ => c.modify i (Record.updateCache f)) =
          s.store.modify g fun c => c.modify i (Record.updateCache f) := fun i =>
        Store.modify_congr fun c' hc' => by rw [Option.some.inj (hc.symm.trans hc')]
      cases handle with
      | named name =>
          simp only [Catalog.change, Option.bind_some]
          cases c.position? name with
          | none => simp only [hkept, Option.map_none, Option.elim_none]
          | some i => simp only [hchanged, Option.map_some, Option.elim_some, modifyInstance]
      | position i =>
          simp only [Catalog.change, hchanged, Option.bind_some, Option.elim_some, modifyInstance]
      | copy i =>
          simp only [Catalog.change, hkept, Option.bind_some, Option.elim_some, modifyInstance]

theorem record?_modifyInstance (s : StoreSession) (f : Record → Record)
    (inst inst' : Instance) :
    (s.modifyInstance f inst).record? inst' =
      if inst' = inst then (s.record? inst').map f else s.record? inst' := by
  cases inst with
  | inCatalog g i =>
      cases inst' with
      | inCatalog g' i' =>
          simp only [modifyInstance, record?, Store.catalog?_modify, Instance.inCatalog.injEq]
          by_cases hg : g' = g
          · cases hc : s.store.catalog? g' with
            | none => simp [hg]
            | some c => simp [hg, Catalog.getElem?_modify, eq_comm]
          · simp [hg]
      | copy i' => simp [modifyInstance, record?]
  | copy i =>
      cases inst' with
      | inCatalog g' i' => simp [modifyInstance, record?]
      | copy i' =>
          simp only [modifyInstance, record?, List.getElem?_modify, Instance.copy.injEq]
          grind

end StoreSession

/-! ## Moves -/

/-- What can happen next to a store in use, and to the caches of the instances. -/
inductive CacheMove where
  | store (move : StoreMove)
  /-- A reader changes, in whatever way, the cache of an instance that a handle leads to: from
  the active catalog, or from one that is held on to. -/
  | update (held? : Option Nat) (handle : Catalog.Handle) (f : NetworkCache → NetworkCache)

def CacheMove.replaces : CacheMove → Bool
  | .store m => m.replaces
  | .update .. => false

inductive Effect where
  /-- Another catalog is put in the place of the active one. -/
  | replace (next : Catalog)
  | copy (original : Instance)
  | change (inst : Instance) (f : NetworkCache → NetworkCache)
  | nothing

def Effect.changesOf (inst : Instance) : Effect → List (NetworkCache → NetworkCache)
  | .change i f => if i = inst then [f] else []
  | _ => []

namespace StoreSession

/-- The generation of the active catalog, or of one that is held on to. -/
def generation? (s : StoreSession) : Option Nat → Option Nat
  | none => some s.store.generation
  | some i => s.held[i]?

def run (s : StoreSession) : CacheMove → StoreSession
  | .store m => s.move m
  | .update held? handle f => (s.generation? held?).elim s (s.updateAt · handle f)

def runs (s : StoreSession) (moves : List CacheMove) : StoreSession :=
  moves.foldl run s

/-- The instance that a handle leads to, from the active catalog or from one held on to. -/
def seen? (s : StoreSession) (held? : Option Nat) (handle : Catalog.Handle) : Option Instance :=
  (s.generation? held?).bind (s.reached? · handle)

def effectOn (s : StoreSession) (held? : Option Nat) (handle : Catalog.Handle)
    (effect : Instance → Effect) : Effect :=
  (s.seen? held? handle).elim .nothing effect

/-- What a request to a catalog does: only copying and changes of a cache do anything. -/
def effectOfRequest (s : StoreSession) (held? : Option Nat) : Catalog.Request → Effect
  | .cache handle change => s.effectOn held? handle (.change · change.onCache)
  | .duplicate name => s.effectOn held? (.named name) .copy
  | .cloneCopy i => s.effectOn held? (.copy i) .copy
  | _ => .nothing

def effect (s : StoreSession) : CacheMove → Effect
  | .update held? handle f => s.effectOn held? handle (.change · f)
  | .store (.ask (.active request)) => s.effectOfRequest none request
  | .store (.ask (.onHeld i request)) => s.effectOfRequest (some i) request
  | .store (.ask (.reload d)) => .replace (Catalog.build s.store.scanner s.files d).value
  | .store (.ask .release) => .replace {}
  | .store _ => .nothing

def carryOut (s : StoreSession) : Effect → StoreSession
  | .replace next => { s with store := s.store.replace next }
  | .copy original => { s with copies := s.copies ++ (s.record? original).toList }
  | .change inst f => s.modifyInstance (Record.updateCache f) inst
  | .nothing => s

/-! ## One move -/

theorem ask_eq (s : StoreSession) (held? : Option Nat) {g : Nat}
    (hg : s.generation? held? = some g) (request : Catalog.Request) :
    (s.ask g request).2 = s.carryOut (s.effectOfRequest held? request) := by
  have hseen : ∀ handle, s.seen? held? handle = s.reached? g handle := fun _ => by
    rw [seen?, hg, Option.bind_some]
  cases hc : s.store.catalog? g with
  | none =>
      have hnone : (s.ask g request).2 = s := by rw [ask, hc]
      have hreached : ∀ handle, s.reached? g handle = none := fun _ => by rw [reached?, hc]; rfl
      rw [hnone]
      cases request <;> simp [effectOfRequest, effectOn, hseen, hreached, carryOut]
  | some c =>
      have hkept := Store.modify_self hc
      cases request with
      | cache handle change =>
          rw [ask_cache, updateAt_eq, effectOfRequest, effectOn, hseen]
          cases s.reached? g handle with
          | none => rfl
          | some inst => rfl
      | duplicate name =>
          have hlookup : c.lookup name = (s.reached? g (.named name)).bind s.record? := by
            rw [reached?, hc, Option.bind_some, Catalog.lookup, Option.bind_map]
            simp [record?, hc, Function.comp_def]
          rw [ask, hc, effectOfRequest, effectOn, hseen]
          simp only [Catalog.answer, Catalog.duplicate_eq_lookup, hkept, hlookup]
          cases s.reached? g (.named name) with
          | none => simp [carryOut]
          | some inst => rfl
      | cloneCopy i =>
          have hreached : s.reached? g (.copy i) = some (.copy i) := by rw [reached?, hc]; rfl
          rw [ask, hc, effectOfRequest, effectOn, hseen, hreached]
          simp only [Catalog.answer, hkept, Record.map_copy]
          rfl
      | _ =>
          rw [ask, hc]
          simp only [Catalog.answer, hkept]
          rfl

/-- A move does what its effect says. -/
theorem run_eq (s : StoreSession) (m : CacheMove) :
    (s.run m).store = (s.carryOut (s.effect m)).store
      ∧ (s.run m).copies = (s.carryOut (s.effect m)).copies := by
  cases m with
  | update held? handle f =>
      rw [run, effect, effectOn, seen?]
      cases s.generation? held? with
      | none => exact ⟨rfl, rfl⟩
      | some g =>
          rw [Option.elim_some, updateAt_eq, Option.bind_some]
          cases s.reached? g handle with
          | none => exact ⟨rfl, rfl⟩
          | some inst => exact ⟨rfl, rfl⟩
  | store move =>
      cases move with
      | changeFiles change => exact ⟨rfl, rfl⟩
      | ask request =>
          cases request with
          | active request =>
              rw [effect, ← s.ask_eq none rfl]
              exact ⟨rfl, rfl⟩
          | onHeld i request =>
              rw [run, StoreSession.move, step]
              cases hi : s.held[i]? with
              | none =>
                have hseen : ∀ handle, s.seen? (some i) handle = none := fun handle => by
                  rw [seen?, generation?, hi, Option.bind_none]
                cases request <;> simp [effect, effectOfRequest, effectOn, hseen, carryOut]
              | some g =>
                rw [effect, ← s.ask_eq (some i) hi]
                exact ⟨rfl, rfl⟩
          | _ => exact ⟨rfl, rfl⟩

theorem record?_congr {s s' : StoreSession} (hstore : s'.store = s.store)
    (hcopies : s'.copies = s.copies) (inst : Instance) : s'.record? inst = s.record? inst := by
  cases inst with
  | inCatalog g i => rw [record?, record?, hstore]
  | copy i => rw [record?, record?, hcopies]

theorem record?_run (s : StoreSession) (m : CacheMove) (inst : Instance) :
    (s.run m).record? inst = (s.carryOut (s.effect m)).record? inst :=
  record?_congr (s.run_eq m).1 (s.run_eq m).2 inst

/-- An instance stays what it was, but for the changes that are made to its own cache. -/
theorem record?_run_of_some {s : StoreSession} {inst : Instance} {r : Record}
    (h : s.record? inst = some r) (m : CacheMove) :
    (s.run m).record? inst = some (r.applied ((s.effect m).changesOf inst)) := by
  rw [record?_run]
  cases s.effect m with
  | replace next =>
      cases inst with
      | inCatalog g i =>
          obtain ⟨c, hc, hr⟩ := Option.bind_eq_some_iff.mp h
          rw [carryOut, record?, Store.catalog?_replace hc next]
          exact hr
      | copy i => exact h
  | copy original =>
      cases inst with
      | inCatalog g i => exact h
      | copy i =>
          obtain ⟨hi, -⟩ := List.getElem?_eq_some_iff.mp h
          rw [carryOut, record?, List.getElem?_append_left hi]
          exact h
  | change touched f =>
      rw [carryOut, record?_modifyInstance, h]
      simp only [Effect.changesOf]
      by_cases heq : touched = inst
      · rw [if_pos heq.symm, if_pos heq]
        rfl
      · rw [if_neg (fun he => heq he.symm), if_neg heq]
        rfl
  | nothing => exact h

/-- An instance that was not there before is one of a catalog that was put in the place of the
active one, or it is a copy. -/
theorem record?_run_of_none {s : StoreSession} {inst : Instance} {m : CacheMove} {r : Record}
    (h : s.record? inst = none) (hr : (s.run m).record? inst = some r) :
    (∃ next i, s.effect m = .replace next ∧ inst = .inCatalog (s.store.generation + 1) i
        ∧ next.modes[i]? = some r)
      ∨ ∃ original, s.effect m = .copy original ∧ inst = .copy s.copies.length
        ∧ s.record? original = some r := by
  rw [record?_run] at hr
  cases heffect : s.effect m with
  | replace next =>
      rw [heffect] at hr
      cases inst with
      | inCatalog g i =>
          rw [carryOut, record?, Store.catalog?_replace_eq] at hr
          split at hr
          · next hg => exact .inl ⟨next, i, rfl, by rw [hg], hr⟩
          · rw [record?] at h
            rw [h] at hr
            cases hr
      | copy i =>
          rw [record?] at h
          rw [carryOut, record?, h] at hr
          cases hr
  | copy original =>
      rw [heffect] at hr
      cases inst with
      | inCatalog g i =>
          rw [record?] at h
          rw [carryOut, record?, h] at hr
          cases hr
      | copy i =>
          have hi : s.copies.length ≤ i := List.getElem?_eq_none_iff.mp h
          rw [carryOut, record?, List.getElem?_append_right hi] at hr
          cases ho : s.record? original with
          | none => rw [ho] at hr; simp at hr
          | some r' =>
              rw [ho, Option.toList_some, List.getElem?_singleton] at hr
              split at hr
              · next hzero =>
                refine .inr ⟨original, rfl, ?_, by rw [ho, hr]⟩
                rw [Nat.le_antisymm (Nat.sub_eq_zero_iff_le.mp hzero) hi]
              · cases hr
  | change touched f =>
      rw [heffect, carryOut, record?_modifyInstance, h] at hr
      simp at hr
  | nothing =>
      rw [heffect, carryOut, h] at hr
      cases hr

end StoreSession

end GadgetModes
