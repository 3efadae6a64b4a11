import GadgetModes.Catalog.Session
import GadgetModes.Proofs.Catalog.Contents

/-!
# Snapshots

A store in use goes through a history of moves: requests, and changes of the files. At any
time its active catalog is what the last reload or release put there, and a catalog that
someone holds on to stays what it was (`StoreSession.snapshot_isolation`).

What a history can change of a catalog is the network configuration that was applied for its
modes, which every reader of an instance may write down there. `Catalog.fixed` is a catalog
without that.
-/

namespace GadgetModes

open GadgetModes.Log GadgetModes.Mode

/-! ## What is fixed -/

/-- A catalog with nothing applied for its modes. -/
def Catalog.fixed (c : Catalog) : Catalog :=
  { c with modes := c.modes.map Record.clearCache }

namespace Catalog

theorem CacheChange.clearCache_apply (f : CacheChange) (r : Record) :
    (f.apply r).clearCache = r.clearCache := by
  cases f <;> rfl

/-- A change of one cache leaves what is fixed. -/
theorem fixed_modify {f : Record → Record} (hf : ∀ r, (f r).clearCache = r.clearCache)
    (c : Catalog) (i : Nat) : (c.modify i f).fixed = c.fixed := by
  simp only [fixed, modify, mk.injEq, and_true]
  ext j hj
  · simp
  · rw [Array.getElem_map, Array.getElem_map, Array.getElem_modify]
    split
    · exact hf _
    · rfl

theorem names_fixed (c : Catalog) : c.fixed.names = c.names := by
  simp only [names, fixed, Array.toList_map, List.map_map]
  rfl

theorem modify_keep (c : Catalog) (i : Nat) : c.modify i CacheChange.keep.apply = c := by
  have hmodes : c.modes.modify i CacheChange.keep.apply = c.modes := by
    ext j hj
    · simp
    · rw [Array.getElem_modify]
      split <;> rfl
  rw [modify, hmodes]

/-- A change through a handle is a change of one instance in the catalog, or of none. -/
theorem change_eq (c : Catalog) (copies : List Record) (f : Record → Record) (handle : Handle) :
    (c.change copies f handle).1 = c ∨ ∃ i, (c.change copies f handle).1 = c.modify i f := by
  cases handle with
  | named name =>
      rw [change]
      split
      · next i _ => exact .inr ⟨i, rfl⟩
      · exact .inl rfl
  | position i => exact .inr ⟨i, rfl⟩
  | copy i => exact .inl rfl

theorem fixed_answer (c : Catalog) (copies : List Record) (request : Request) :
    (c.answer copies request).catalog.fixed = c.fixed := by
  cases request with
  | cache handle f =>
      rcases change_eq c copies f.apply handle with h | ⟨i, h⟩
      · exact congrArg fixed h
      · exact (congrArg fixed h).trans (fixed_modify f.clearCache_apply c i)
  | _ => rfl

def Request.leavesCaches : Request → Bool
  | .cache _ change => change = .keep
  | _ => true

theorem answer_leavesCaches (c : Catalog) (copies : List Record) {request : Request}
    (h : request.leavesCaches = true) : (c.answer copies request).catalog = c := by
  cases request with
  | cache handle f =>
      obtain rfl : f = .keep := by simpa [Request.leavesCaches] using h
      rcases change_eq c copies CacheChange.keep.apply handle with h | ⟨i, h⟩
      · exact h
      · exact h.trans (modify_keep c i)
  | _ => rfl

theorem cache_of_mem_contents {options : Mode.Options} {fs : FileSystem} {dir : String}
    {r : Record} (h : r ∈ Scanner.contents options fs dir) : r.clearCache = r := by
  obtain ⟨name, -, hname⟩ := List.mem_filterMap.mp h
  obtain ⟨-, hfile⟩ := Scanner.recordOf?_eq_some_iff.mp hname
  rw [Record.ofFile] at hfile
  cases hfields : Description.ofFile options fs (Path.join dir name) with
  | error rejection => rw [hfields] at hfile; cases hfile
  | ok fields =>
      rw [hfields] at hfile
      obtain ⟨-, -, hcache⟩ := Record.ofFields_eq_ok_iff.mp hfile
      rw [Record.clearCache, Record.updateCache, ← hcache]

/-- A catalog that was just built has nothing applied. -/
theorem fixed_build (s : Scanner) (fs : FileSystem) (diagnostic : Bool) :
    (build s fs diagnostic).value.fixed = (build s fs diagnostic).value := by
  rw [build_value, fixed]
  congr 1
  refine (Array.map_congr_left fun r hr => ?_).trans (Array.map_id _)
  exact cache_of_mem_contents ((perm_ofRecords _ _).mem_iff.mp (Array.mem_toList_iff.mpr hr))

theorem fixed_empty : ({} : Catalog).fixed = {} := by
  simp [fixed]

end Catalog

/-! ## Catalogs of a store -/

namespace Store

variable {s : Store} {g : Nat} {c : Catalog}

theorem catalog?_generation (s : Store) : s.catalog? s.generation = some s.active := by
  simp [catalog?, generation]

theorem catalog?_replace (h : s.catalog? g = some c) (next : Catalog) :
    (s.replace next).catalog? g = some c := by
  rw [catalog?] at h
  rw [catalog?, replace, List.getElem?_append_left (List.getElem?_eq_some_iff.mp h).1]
  exact h

theorem eq_or_of_catalog?_replace {next : Catalog} (h : (s.replace next).catalog? g = some c) :
    c = next ∨ s.catalog? g = some c := by
  rw [catalog?, replace] at h
  by_cases hlt : g < (s.retired ++ [s.active]).length
  · rw [List.getElem?_append_left hlt] at h
    exact .inr h
  · rw [List.getElem?_append_right (Nat.le_of_not_lt hlt)] at h
    have hmem : c ∈ [next] := List.mem_of_getElem? h
    exact .inl (List.mem_singleton.mp hmem)

theorem generation_modify (s : Store) (g : Nat) (f : Catalog → Catalog) :
    (s.modify g f).generation = s.generation := by
  rw [modify]
  split
  · rfl
  · simp [generation]

/-- Changing a catalog in place leaves all others. -/
theorem catalog?_modify (s : Store) (g g' : Nat) (f : Catalog → Catalog) :
    (s.modify g f).catalog? g' = if g' = g then (s.catalog? g').map f else s.catalog? g' := by
  rw [modify]
  split
  · next hg =>
    subst hg
    simp only [catalog?, generation, List.getElem?_append]
    grind
  · next hg =>
    simp only [catalog?, generation, List.getElem?_append, List.length_modify,
      List.getElem?_modify] at hg ⊢
    grind

end Store

/-! ## Histories -/

/-- What can happen next to a store in use. -/
inductive StoreMove where
  | ask (request : StoreRequest)
  /-- The files change, in whatever way. -/
  | changeFiles (change : FileSystem → FileSystem)

namespace StoreMove

def filesAfter (fs : FileSystem) : StoreMove → FileSystem
  | .ask (.write path node) => fs.write path node
  | .ask (.remove path) => fs.remove path
  | .changeFiles change => change fs
  | .ask _ => fs

def isFileChange : StoreMove → Bool
  | .ask (.write ..) | .ask (.remove _) | .changeFiles _ => true
  | .ask _ => false

/-- Whether a move puts another catalog in the place of the active one. -/
def replaces : StoreMove → Bool
  | .ask (.reload _) | .ask .release => true
  | _ => false

def leavesCaches : StoreMove → Bool
  | .ask (.active request) | .ask (.onHeld _ request) => request.leavesCaches
  | _ => true

end StoreMove

namespace StoreSession

/-- A new store in use, with nothing loaded or with the normal or diagnostic modes. -/
def start (scanner : Scanner) (files : FileSystem) : Option Bool → StoreSession
  | none => { store := { scanner }, files }
  | some diagnostic => { store := (Store.load scanner files diagnostic).value, files }

def move (s : StoreSession) : StoreMove → StoreSession
  | .ask request => (s.step request).value.2
  | .changeFiles change => { s with files := change s.files }

def play (s : StoreSession) (moves : List StoreMove) : StoreSession :=
  moves.foldl move s

/-- The catalog that was held on to at some time, by its index among those that were. -/
def heldCatalog? (s : StoreSession) (index : Nat) : Option Catalog :=
  s.held[index]?.bind s.store.catalog?

variable {s s' s'' : StoreSession} {m : StoreMove}

/-! ## One move -/

/-- What every move keeps: the scanner, who holds on to what, and all catalogs that there
are, but for what was applied for their modes. -/
structure Continues (s s' : StoreSession) : Prop where
  scanner : s'.store.scanner = s.store.scanner
  held : s.held <+: s'.held
  catalogs : ∀ g c, s.store.catalog? g = some c →
    ∃ c', s'.store.catalog? g = some c' ∧ c'.fixed = c.fixed

theorem Continues.refl (s : StoreSession) : s.Continues s where
  scanner := rfl
  held := List.prefix_refl _
  catalogs := fun _ c h => ⟨c, h, rfl⟩

theorem Continues.trans (h : s.Continues s') (h' : s'.Continues s'') : s.Continues s'' where
  scanner := h'.scanner.trans h.scanner
  held := h.held.trans h'.held
  catalogs := by
    intro g c hc
    obtain ⟨c', hc', hfixed⟩ := h.catalogs g c hc
    obtain ⟨c'', hc'', hfixed'⟩ := h'.catalogs g c' hc'
    exact ⟨c'', hc'', hfixed'.trans hfixed⟩

theorem Continues.heldCatalog? (h : s.Continues s') {i : Nat} {c : Catalog}
    (hc : s.heldCatalog? i = some c) :
    ∃ c', s'.heldCatalog? i = some c' ∧ c'.fixed = c.fixed := by
  obtain ⟨g, hg, hc⟩ := Option.bind_eq_some_iff.mp hc
  obtain ⟨c', hc', hfixed⟩ := h.catalogs g c hc
  refine ⟨c', ?_, hfixed⟩
  obtain ⟨hi, rfl⟩ := List.getElem?_eq_some_iff.mp hg
  rw [StoreSession.heldCatalog?, List.prefix_iff_getElem?.mp h.held i hi]
  exact hc'

/-- Putting a new catalog in the place of the active one keeps all that there were. -/
theorem continues_replace (s : StoreSession) (next : Catalog) :
    s.Continues { s with store := s.store.replace next } where
  scanner := rfl
  held := List.prefix_refl _
  catalogs := fun _ c h => ⟨c, Store.catalog?_replace h next, rfl⟩

theorem generation_ask (s : StoreSession) (g : Nat) (request : Catalog.Request) :
    (s.ask g request).2.store.generation = s.store.generation := by
  rw [ask]
  split
  · rfl
  · exact s.store.generation_modify g _

/-- A request to a catalog keeps what is fixed of it, and all others. -/
theorem continues_ask (s : StoreSession) (g : Nat) (request : Catalog.Request) :
    s.Continues (s.ask g request).2 := by
  rw [ask]
  split
  · exact .refl s
  · next c hc =>
    refine ⟨?_, List.prefix_refl _, ?_⟩
    · show (s.store.modify g _).scanner = _
      rw [Store.modify]
      split <;> rfl
    · intro g' c' hc'
      show ∃ c'', (s.store.modify g _).catalog? g' = some c'' ∧ _
      rw [Store.catalog?_modify, hc']
      split
      · next hg =>
        obtain rfl : c = c' := Option.some.inj (by rw [← hc, ← hc', hg])
        exact ⟨_, rfl, c.fixed_answer s.copies request⟩
      · exact ⟨c', rfl, rfl⟩

theorem continues_move (s : StoreSession) (m : StoreMove) : s.Continues (s.move m) := by
  have hframe : ∀ {s' : StoreSession}, s'.store = s.store → s.held <+: s'.held →
      s.Continues s' := fun hstore hheld =>
    ⟨by rw [hstore], hheld, fun _ c hc => ⟨c, by rw [hstore]; exact hc, rfl⟩⟩
  cases m with
  | changeFiles change => exact hframe rfl (List.prefix_refl _)
  | ask request =>
      cases request with
      | reload diagnostic => exact s.continues_replace _
      | release => exact s.continues_replace _
      | hold => exact hframe rfl (List.prefix_append _ _)
      | active request => exact s.continues_ask _ request
      | onHeld index request =>
          show s.Continues (s.step (.onHeld index request)).value.2
          rw [step]
          split
          · exact s.continues_ask _ request
          · exact .refl s
      | _ => exact hframe rfl (List.prefix_refl _)

/-- Only reloading and releasing begin a new generation. -/
theorem generation_move (h : m.replaces = false) :
    (s.move m).store.generation = s.store.generation := by
  cases m with
  | changeFiles change => rfl
  | ask request =>
      cases request with
      | reload diagnostic => cases h
      | release => cases h
      | active request => exact s.generation_ask _ request
      | onHeld index request =>
          show (s.step (.onHeld index request)).value.2.store.generation = _
          rw [step]
          split
          · exact s.generation_ask _ request
          · rfl
      | _ => rfl

theorem active_move (h : m.replaces = false) :
    (s.move m).store.active.fixed = s.store.active.fixed := by
  obtain ⟨c, hc, hfixed⟩ :=
    (s.continues_move m).catalogs _ _ (Store.catalog?_generation s.store)
  rw [← generation_move h, Store.catalog?_generation] at hc
  rw [Option.some.inj hc, hfixed]

theorem files_move (s : StoreSession) (m : StoreMove) :
    (s.move m).files = m.filesAfter s.files := by
  cases m with
  | changeFiles change => rfl
  | ask request =>
      cases request with
      | active request =>
          show (s.ask s.store.generation request).2.files = _
          rw [ask]
          split <;> rfl
      | onHeld index request =>
          show (s.step (.onHeld index request)).value.2.files = _
          rw [step]
          split
          · rw [Logged.value_pure, ask]
            split <;> rfl
          · rfl
      | _ => rfl

/-! ## Caches that nobody wrote to -/

/-- Nothing is applied for any mode of any catalog. -/
def Untouched (s : StoreSession) : Prop :=
  ∀ g c, s.store.catalog? g = some c → c.fixed = c

theorem Untouched.replace (h : s.Untouched) {next : Catalog} (hnext : next.fixed = next) :
    Untouched { s with store := s.store.replace next } := by
  intro g c hc
  rcases Store.eq_or_of_catalog?_replace hc with rfl | hc
  · exact hnext
  · exact h g c hc

theorem Untouched.ask (h : s.Untouched) (g : Nat) {request : Catalog.Request}
    (hrequest : request.leavesCaches = true) : (s.ask g request).2.Untouched := by
  rw [StoreSession.ask]
  split
  · exact h
  · next c hc =>
    intro g' c' hc'
    have hc' : (s.store.modify g _).catalog? g' = some c' := hc'
    rw [Store.catalog?_modify, c.answer_leavesCaches s.copies hrequest] at hc'
    split at hc'
    · next hg =>
      rw [hg, hc] at hc'
      obtain rfl := Option.some.inj hc'
      exact h g c hc
    · exact h g' c' hc'

theorem Untouched.move (h : s.Untouched) (hm : m.leavesCaches = true) :
    (s.move m).Untouched := by
  cases m with
  | changeFiles change => exact h
  | ask request =>
      cases request with
      | reload diagnostic => exact h.replace (Catalog.fixed_build ..)
      | release => exact h.replace Catalog.fixed_empty
      | active request => exact h.ask _ hm
      | onHeld index request =>
          show (s.step (.onHeld index request)).value.2.Untouched
          rw [step]
          split
          · exact h.ask _ hm
          · exact h
      | _ => exact h

theorem untouched_start (scanner : Scanner) (files : FileSystem) (load? : Option Bool) :
    (start scanner files load?).Untouched := by
  have hnew : (start scanner files none).Untouched := by
    intro g c hc
    obtain ⟨hg, rfl⟩ := List.getElem?_eq_some_iff.mp hc
    simp [start, Catalog.fixed_empty]
  cases load? with
  | none => exact hnew
  | some diagnostic => exact hnew.replace (Catalog.fixed_build ..)

/-! ## Histories -/

section Play

variable (s : StoreSession) (moves : List StoreMove)

theorem play_append (before after : List StoreMove) :
    s.play (before ++ after) = (s.play before).play after :=
  List.foldl_append

theorem continues_play : s.Continues (s.play moves) := by
  induction moves generalizing s with
  | nil => exact .refl s
  | cons m moves ih => exact (s.continues_move m).trans (ih (s.move m))

theorem files_play : (s.play moves).files = moves.foldl StoreMove.filesAfter s.files := by
  induction moves generalizing s with
  | nil => rfl
  | cons m moves ih =>
      rw [List.foldl_cons, ← files_move]
      exact ih (s.move m)

variable {s moves}

theorem active_play (h : ∀ m ∈ moves, m.replaces = false) :
    (s.play moves).store.active.fixed = s.store.active.fixed := by
  induction moves generalizing s with
  | nil => rfl
  | cons m moves ih =>
      rw [← active_move (s := s) (h m (List.mem_cons_self ..))]
      exact ih (s := s.move m) fun m hm => h m (List.mem_cons_of_mem _ hm)

theorem Untouched.play (hs : s.Untouched) (h : ∀ m ∈ moves, m.leavesCaches = true) :
    (s.play moves).Untouched := by
  induction moves generalizing s with
  | nil => exact hs
  | cons m moves ih =>
      exact ih (hs.move (h m (List.mem_cons_self ..)))
        fun m hm => h m (List.mem_cons_of_mem _ hm)

end Play

/-- What holds of a store in use, with a scanner and files, whatever happened to it: a
reload answers with the catalog that the files give and makes it the active one, changes of
the files change no catalog, and a catalog that is held on to stays what it was, but for what
readers write down as applied for its modes. -/
structure Isolated (s : StoreSession) (scanner : Scanner) (files : FileSystem) : Prop where
  scannerIs : s.store.scanner = scanner
  filesAre : s.files = files
  reload : ∀ d,
    (s.step (.reload d)).value.1 = .summary (Catalog.build scanner files d).value
      ∧ (s.step (.reload d)).value.2.store.active = (Catalog.build scanner files d).value
  fileChange : ∀ m : StoreMove, m.isFileChange = true → (s.move m).store = s.store
  hold : (s.move (.ask .hold)).heldCatalog? s.held.length = some s.store.active
  held : ∀ i c later, s.heldCatalog? i = some c →
    ∃ c', (s.play later).heldCatalog? i = some c' ∧ c'.fixed = c.fixed

theorem isolated (s : StoreSession) : s.Isolated s.store.scanner s.files where
  scannerIs := rfl
  filesAre := rfl
  reload := fun _ => ⟨rfl, rfl⟩
  fileChange := by
    intro m hm
    cases m with
    | changeFiles change => rfl
    | ask request =>
        cases request with
        | write path node => rfl
        | remove path => rfl
        | _ => cases hm
  hold := by simp [heldCatalog?, move, step, Store.catalog?_generation]
  held := fun _ _ later hc => (continues_play s later).heldCatalog? hc

/-- Of a store in use, the active catalog is what the last reload built from the files as
they were then, or what the start or the last release left. The scanner never changes, files
that change change no catalog, and a catalog that is held on to stays what it was. Where
nobody writes anything down as applied for a mode, all that is said of what is fixed of a
catalog holds of the catalog. -/
theorem snapshot_isolation (scanner : Scanner) (files : FileSystem) (load? : Option Bool) :
    (∀ moves, (∀ m ∈ moves, m.replaces = false) →
        ((start scanner files load?).play moves).store.active.fixed =
          load?.elim {} fun d => (Catalog.build scanner files d).value)
      ∧ (∀ before d after, (∀ m ∈ after, m.replaces = false) →
        ((start scanner files load?).play
            (before ++ .ask (.reload d) :: after)).store.active.fixed =
          (Catalog.build scanner (before.foldl StoreMove.filesAfter files) d).value)
      ∧ (∀ before after, (∀ m ∈ after, m.replaces = false) →
        ((start scanner files load?).play
            (before ++ .ask .release :: after)).store.active.fixed = {})
      ∧ (∀ fs d fault, fs.entries (scanner.dirs.select d) = .error fault →
        (Catalog.build scanner fs d).value = { diagnostic := d })
      ∧ (∀ moves, ((start scanner files load?).play moves).Isolated scanner
          (moves.foldl StoreMove.filesAfter files))
      ∧ ∀ moves s, (start scanner files load?).play moves = s →
          (∀ m ∈ moves, m.leavesCaches = true) →
            s.store.active.fixed = s.store.active
              ∧ ∀ i c, s.heldCatalog? i = some c → c.fixed = c := by
  have hscanner : ∀ moves, ((start scanner files load?).play moves).store.scanner = scanner := by
    intro moves
    rw [(continues_play _ moves).scanner]
    cases load? <;> rfl
  have hfiles : ∀ moves, ((start scanner files load?).play moves).files =
      moves.foldl StoreMove.filesAfter files := by
    intro moves
    rw [files_play]
    cases load? <;> rfl
  refine ⟨?_, ?_, ?_, ?_, ?_, ?_⟩
  · intro moves hmoves
    rw [active_play hmoves]
    cases load? with
    | none => exact Catalog.fixed_empty
    | some d => exact Catalog.fixed_build ..
  · intro before d after hafter
    rw [play_append]
    refine (active_play (s := ((start scanner files load?).play before).move
      (.ask (.reload d))) hafter).trans ?_
    show ((Catalog.build _ _ d).value).fixed = _
    rw [Catalog.fixed_build, hscanner, hfiles]
  · intro before after hafter
    rw [play_append]
    exact (active_play (s := ((start scanner files load?).play before).move
      (.ask .release)) hafter).trans Catalog.fixed_empty
  · intro fs d fault h
    rw [Catalog.build_value, Scanner.contents, h]
    simp [Except.toOption, Catalog.ofRecords]
  · intro moves
    have h := ((start scanner files load?).play moves).isolated
    rwa [hscanner, hfiles] at h
  · rintro moves s rfl hmoves
    have huntouched := (untouched_start scanner files load?).play hmoves
    refine ⟨huntouched _ _ (Store.catalog?_generation _), fun i c hc => ?_⟩
    obtain ⟨g, -, hc⟩ := Option.bind_eq_some_iff.mp hc
    exact huntouched g c hc

/-- A catalog is held on to while its only file is removed and the modes are reloaded. -/
def heldOverRemoval : List StoreMove :=
  [.ask .hold, .ask (.remove "a/m.ini"), .ask (.reload false)]

/-- The held catalog still has the mode, the active one has none. -/
theorem snapshot_isolation_heldOverRemoval :
    ∃ s c, (start (Catalog.scannerOf "a") Catalog.besideDirectory (some false)).play
          heldOverRemoval = s
      ∧ s.heldCatalog? 0 = some c ∧ c.names = ["M"] ∧ s.store.active.names = [] := by
  have hheld : ((start (Catalog.scannerOf "a") Catalog.besideDirectory (some false)).play
      [.ask .hold]).heldCatalog? 0 =
        some (Catalog.build (Catalog.scannerOf "a") Catalog.besideDirectory false).value := rfl
  have hisolated := (snapshot_isolation (Catalog.scannerOf "a") Catalog.besideDirectory
    (some false)).2.2.2.2.1 [.ask .hold]
  obtain ⟨c, hc, hfixed⟩ :=
    hisolated.held 0 _ [.ask (.remove "a/m.ini"), .ask (.reload false)] hheld
  refine ⟨_, c, rfl, hc, ?_, by decide +kernel⟩
  rw [← c.names_fixed, hfixed]
  decide +kernel

end StoreSession

end GadgetModes
