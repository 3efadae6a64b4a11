import Mathlib.Data.List.Basic
import GadgetModes.FileSystem.Access

/-!
# The places that a path leads through

Resolving a path looks at some places: the directories and links on its way, and the place
where it ends. Whatever happens to other places, the path is resolved as before
(`resolve_congr`).
-/

namespace GadgetModes.FileSystem

variable {fs fs' : FileSystem}

theorem isDirectory_congr {place : Location} (h : fs'.node? place = fs.node? place) :
    fs'.isDirectory place = fs.isDirectory place := by
  rw [isDirectory, isDirectory, h]

/-! ## As far as the first link -/

/-- The places that are looked at on the way along some steps, and the one where it ends.
Those after a link are told by `follow`. -/
def trailWith (fs : FileSystem) (through : Bool)
    (follow : Location → List String → List Location) (here : Location) :
    List String → List Location
  | [] => [here]
  | step :: rest =>
    here ::
      (if !fs.isDirectory here then []
      else if step = "." then trailWith fs through follow here rest
      else if step = ".." then trailWith fs through follow here.dropLast rest
      else if nameLimit < step.utf8ByteSize then []
      else
        (here ++ [step]) ::
          match fs.node? (here ++ [step]) with
          | none => []
          | some (.link target) =>
            if rest.isEmpty && !through then []
            else follow (origin here target) (Path.steps target ++ rest)
          | some _ => trailWith fs through follow (here ++ [step]) rest)

section With

variable {through : Bool} {follow follow' : Location → List String → Except Errno Location}
  {next : Location → List String → List Location} {here place : Location}
  {steps : List String}

theorem walkWith_congr
    (hfollow : ∀ here steps, (∀ p ∈ next here steps, fs'.node? p = fs.node? p) →
      follow' here steps = follow here steps)
    (h : ∀ p ∈ fs.trailWith through next here steps, fs'.node? p = fs.node? p) :
    fs'.walkWith through follow' here steps = fs.walkWith through follow here steps := by
  induction steps generalizing here with
  | nil => rfl
  | cons step rest ih =>
      rw [trailWith, List.forall_mem_cons] at h
      obtain ⟨hhere, h⟩ := h
      rw [walkWith, walkWith, isDirectory_congr hhere]
      by_cases hdir : (!fs.isDirectory here) = true
      · rw [if_pos hdir, if_pos hdir]
      rw [if_neg hdir] at h
      rw [if_neg hdir, if_neg hdir]
      by_cases hone : step = "."
      · rw [if_pos hone] at h
        rw [if_pos hone, if_pos hone, ih h]
      rw [if_neg hone] at h
      rw [if_neg hone, if_neg hone]
      by_cases htwo : step = ".."
      · rw [if_pos htwo] at h
        rw [if_pos htwo, if_pos htwo, ih h]
      rw [if_neg htwo] at h
      rw [if_neg htwo, if_neg htwo]
      by_cases hlong : nameLimit < step.utf8ByteSize
      · rw [if_pos hlong, if_pos hlong]
      rw [if_neg hlong, List.forall_mem_cons] at h
      rw [if_neg hlong, if_neg hlong, h.1]
      have hrest := h.2
      cases hnode : fs.node? (here ++ [step]) with
      | none => rfl
      | some node =>
          rw [hnode] at hrest
          cases node with
          | link target =>
              simp only at hrest ⊢
              split at hrest
              · next hlast => rw [if_pos hlast, if_pos hlast]
              · next hlast => rw [if_neg hlast, if_neg hlast, hfollow _ _ hrest]
          | file bytes => exact ih hrest
          | directory => exact ih hrest
          | fifo => exact ih hrest

theorem mem_trailWith_of_walkWith
    (hfollow : ∀ here steps, follow here steps = .ok place → place ∈ next here steps)
    (h : fs.walkWith through follow here steps = .ok place) :
    place ∈ fs.trailWith through next here steps := by
  induction steps generalizing here with
  | nil =>
      obtain rfl := Except.ok.inj h
      exact List.mem_singleton.mpr rfl
  | cons step rest ih =>
      rw [walkWith] at h
      rw [trailWith]
      refine List.mem_cons_of_mem _ ?_
      by_cases hdir : (!fs.isDirectory here) = true
      · rw [if_pos hdir] at h
        cases h
      rw [if_neg hdir] at h ⊢
      by_cases hone : step = "."
      · rw [if_pos hone] at h ⊢
        exact ih h
      rw [if_neg hone] at h ⊢
      by_cases htwo : step = ".."
      · rw [if_pos htwo] at h ⊢
        exact ih h
      rw [if_neg htwo] at h ⊢
      by_cases hlong : nameLimit < step.utf8ByteSize
      · rw [if_pos hlong] at h
        cases h
      rw [if_neg hlong] at h ⊢
      cases hnode : fs.node? (here ++ [step]) with
      | none =>
          rw [hnode] at h
          cases h
      | some node =>
          rw [hnode] at h
          cases node with
          | link target =>
              simp only at h ⊢
              split at h
              · obtain rfl := Except.ok.inj h
                exact List.mem_cons_self ..
              · next hlast =>
                rw [if_neg hlast]
                exact List.mem_cons_of_mem _ (hfollow _ _ h)
          | file bytes => exact List.mem_cons_of_mem _ (ih h)
          | directory => exact List.mem_cons_of_mem _ (ih h)
          | fifo => exact List.mem_cons_of_mem _ (ih h)

end With

/-! ## Whole paths -/

/-- The places that are looked at on the way along some steps, and the one where it ends. -/
def trail (fs : FileSystem) (through : Bool) : Nat → Location → List String → List Location
  | 0 => fs.trailWith through fun _ _ => []
  | links + 1 => fs.trailWith through (fs.trail through links)

/-- Where only places off the trail are changed, the same steps lead to the same place. -/
theorem walk_congr {through : Bool} {links : Nat} {here : Location} {steps : List String}
    (h : ∀ p ∈ fs.trail through links here steps, fs'.node? p = fs.node? p) :
    fs'.walk through links here steps = fs.walk through links here steps := by
  induction links generalizing here steps with
  | zero => exact walkWith_congr (fun _ _ _ => rfl) h
  | succ links ih => exact walkWith_congr (fun _ _ => ih) h

/-- Where steps lead lies on their trail. -/
theorem mem_trail_of_walk {through : Bool} {links : Nat} {here place : Location}
    {steps : List String} (h : fs.walk through links here steps = .ok place) :
    place ∈ fs.trail through links here steps := by
  induction links generalizing here steps with
  | zero =>
      refine mem_trailWith_of_walkWith (fun _ _ h => ?_) h
      cases h
  | succ links ih => exact mem_trailWith_of_walkWith (fun _ _ => ih) h

def looksAt (fs : FileSystem) (path : String) : List Location :=
  if path.toList.contains '\x00' || path.isEmpty || pathLimit ≤ path.utf8ByteSize then []
  else fs.trail true linkLimit (origin fs.home path) (Path.steps path)

/-- Resolving a path looks at a place or at something below it. -/
def LeadsThrough (fs : FileSystem) (place : Location) (path : String) : Prop :=
  ∃ p ∈ fs.looksAt path, place <+: p

instance (fs : FileSystem) (place : Location) (path : String) :
    Decidable (fs.LeadsThrough place path) :=
  inferInstanceAs (Decidable (∃ p ∈ fs.looksAt path, place <+: p))

/-! ## Changes elsewhere -/

/-- File systems that differ at most at a place and below it. -/
structure AgreeOff (place : Location) (fs fs' : FileSystem) : Prop where
  home : fs'.home = fs.home
  node : ∀ p, ¬place <+: p → fs'.node? p = fs.node? p
  entries : ∀ dir, ¬place <+: dir →
    (fs'.entriesAt dir).filter (fun name => dir ++ [name] ≠ place) =
      (fs.entriesAt dir).filter (fun name => dir ++ [name] ≠ place)

section AgreeOff

variable {place : Location} {path : String}

theorem mem_looksAt_of_resolve {p : Location} (h : fs.resolve path = .ok p) :
    p ∈ fs.looksAt path := by
  rw [resolve] at h
  rw [looksAt]
  split at h
  · cases h
  · next hnul =>
    split at h
    · cases h
    · next hempty =>
      split at h
      · cases h
      · next hlong =>
        rw [if_neg (by simp_all)]
        cases hwalk : fs.walk true linkLimit (origin fs.home path) (Path.steps path) with
        | error e => rw [hwalk] at h; cases h
        | ok p' =>
            rw [hwalk] at h
            obtain rfl := Except.ok.inj h
            exact mem_trail_of_walk hwalk

/-- A path that does not lead through a place does not end there. -/
theorem not_prefix_of_resolve (h : ¬fs.LeadsThrough place path) {p : Location}
    (hp : fs.resolve path = .ok p) : ¬place <+: p :=
  fun hprefix => h ⟨p, mem_looksAt_of_resolve hp, hprefix⟩

/-- A path is resolved as before when nothing changed but at a place that it does not lead
through. -/
theorem resolve_congr (hagree : AgreeOff place fs fs') (h : ¬fs.LeadsThrough place path) :
    fs'.resolve path = fs.resolve path := by
  rw [resolve, resolve]
  split
  · rfl
  · next hnul =>
    split
    · rfl
    · next hempty =>
      split
      · rfl
      · next hlong =>
        have hwalk : fs'.walk true linkLimit (origin fs.home path) (Path.steps path) =
            fs.walk true linkLimit (origin fs.home path) (Path.steps path) := by
          refine walk_congr fun p hp => hagree.node p fun hprefix => h ⟨p, ?_, hprefix⟩
          rw [looksAt, if_neg (by simp_all)]
          exact hp
        rw [hagree.home, hwalk]

theorem isFile_congr (hagree : AgreeOff place fs fs') (h : ¬fs.LeadsThrough place path) :
    fs'.isFile path = fs.isFile path := by
  rw [isFile, isFile, resolve_congr hagree h]
  cases hp : fs.resolve path with
  | error fault => rfl
  | ok p => simp only [hagree.node p (not_prefix_of_resolve h hp)]

theorem bytes_congr (hagree : AgreeOff place fs fs') (h : ¬fs.LeadsThrough place path) :
    fs'.bytes path = fs.bytes path := by
  rw [bytes, bytes, resolve_congr hagree h]
  cases hp : fs.resolve path with
  | error fault => rfl
  | ok p => simp only [hagree.node p (not_prefix_of_resolve h hp)]

/-- The entries of the directory at the end of a path; what is no directory has none. -/
theorem entries_of_resolve {dir : Location} (h : fs.resolve path = .ok dir) :
    (fs.entries path).toOption.getD [] = if fs.isDirectory dir then fs.entriesAt dir else [] := by
  rw [entries, h]
  simp only
  split <;> rfl

/-- The entries of a directory stay in their order, but for the one that was changed. -/
theorem entries_congr (hagree : AgreeOff place fs fs') (h : ¬fs.LeadsThrough place path)
    {dir : Location} (hdir : fs.resolve path = .ok dir) :
    ((fs'.entries path).toOption.getD []).filter (fun name => dir ++ [name] ≠ place) =
      ((fs.entries path).toOption.getD []).filter (fun name => dir ++ [name] ≠ place) := by
  have hoff := not_prefix_of_resolve h hdir
  rw [entries_of_resolve hdir, entries_of_resolve ((resolve_congr hagree h).trans hdir),
    isDirectory_congr (hagree.node dir hoff)]
  split
  · exact hagree.entries dir hoff
  · rfl

/-- A path leads to a regular file when links are followed. -/
theorem isFile_iff :
    fs.isFile path = true ↔
      ∃ p bytes, fs.resolve path = .ok p ∧ fs.node? p = some (.file bytes) := by
  rw [isFile]
  cases fs.resolve path with
  | error fault => simp
  | ok p =>
      simp only [Except.ok.injEq, exists_and_left, exists_eq_left']
      cases fs.node? p with
      | none => simp
      | some node => cases node <;> simp

end AgreeOff

/-- The entries of a directory are the last names of the places in it. -/
theorem entry_eq_some_iff {dir p : Location} {name : String} :
    (if p.dropLast = dir then p.getLast? else none) = some name ↔ p = dir ++ [name] := by
  constructor
  · intro h
    split at h
    · next hdir =>
      rw [← hdir]
      exact (List.dropLast_append_getLast? name h).symm
    · cases h
  · rintro rfl
    simp

/-- What is at a place that is not the root. -/
theorem node?_of_ne_nil {p : Location} (hp : p ≠ []) :
    fs.node? p = (fs.nodes.find? (·.1 = p)).map (·.2) :=
  if_neg hp

/-- Replacing a node keeps its place. -/
theorem put_key (place : Location) (node : Node) (e : Location × Node) :
    (if e.1 = place then (place, node) else e).1 = e.1 := by
  split
  · next he => exact he.symm
  · rfl

theorem node?_put_ne {p place : Location} (hne : p ≠ place) (node : Node) :
    (fs.put place node).node? p = fs.node? p := by
  by_cases hroot : p = []
  · rw [hroot, node?, node?, if_pos rfl, if_pos rfl]
  rw [node?_of_ne_nil hroot, node?_of_ne_nil hroot, put]
  split
  · rw [List.find?_map]
    simp only [Function.comp_def, put_key]
    cases hfind : fs.nodes.find? (·.1 = p) with
    | none => rfl
    | some e =>
        have he : e.1 = p := by simpa using List.find?_some hfind
        simp [he, hne]
  · rw [List.find?_append, List.find?_singleton, if_neg (by simpa using hne.symm),
      Option.or_none]

theorem entriesAt_put (dir place : Location) (node : Node) :
    ((fs.put place node).entriesAt dir).filter (fun name => dir ++ [name] ≠ place) =
      (fs.entriesAt dir).filter (fun name => dir ++ [name] ≠ place) := by
  rw [put]
  split
  · simp only [entriesAt, List.filterMap_map, Function.comp_def, put_key]
  · rw [entriesAt, entriesAt, List.filterMap_append, List.filter_append]
    have hnew : ∀ name ∈ [(place, node)].filterMap
        (fun e => if e.1.dropLast = dir then e.1.getLast? else none), dir ++ [name] = place := by
      intro name hname
      obtain ⟨e, he, hentry⟩ := List.mem_filterMap.mp hname
      rw [List.mem_singleton.mp he] at hentry
      exact (entry_eq_some_iff.mp hentry).symm
    rw [List.append_right_eq_self, List.filter_eq_nil_iff]
    simpa using hnew

/-- Putting something at a place changes nothing elsewhere. -/
theorem agreeOff_put (fs : FileSystem) (place : Location) (node : Node) :
    AgreeOff place fs (fs.put place node) where
  home := by
    rw [put]
    split <;> rfl
  node := by
    intro p hp
    have hne : p ≠ place := fun h => hp (h ▸ List.prefix_refl _)
    exact node?_put_ne hne node
  entries := fun dir _ => entriesAt_put dir place node

theorem node?_removeAt {p place : Location} (hp : ¬place <+: p) :
    (fs.removeAt place).node? p = fs.node? p := by
  by_cases hroot : p = []
  · rw [hroot, node?, node?, if_pos rfl, if_pos rfl]
  rw [node?_of_ne_nil hroot, node?_of_ne_nil hroot, removeAt, List.find?_filter]
  congr 2
  funext e
  by_cases he : e.1 = p
  · have hkeep : place.isPrefixOf p = false := by
      rw [Bool.eq_false_iff]
      exact fun h => hp (List.isPrefixOf_iff_prefix.mp h)
    simp [he, hkeep]
  · simp [he]

theorem entriesAt_removeAt {dir place : Location} (hdir : ¬place <+: dir) :
    ((fs.removeAt place).entriesAt dir).filter (fun name => dir ++ [name] ≠ place) =
      (fs.entriesAt dir).filter (fun name => dir ++ [name] ≠ place) := by
  rw [removeAt, entriesAt, entriesAt, List.filterMap_filter, List.filter_filterMap,
    List.filter_filterMap]
  congr 1
  funext ⟨p, node⟩
  cases hkeep : place.isPrefixOf p with
  | false => simp
  | true =>
      -- the only place of the directory that was removed is the entry itself
      have hp : place <+: p := List.isPrefixOf_iff_prefix.mp hkeep
      cases hentry : (if p.dropLast = dir then p.getLast? else none) with
      | none => simp [hentry]
      | some name =>
          rw [entry_eq_some_iff.mp hentry, List.prefix_concat_iff] at hp
          rcases hp with hp | hp
          · simp [hentry, hp, Option.filter_some]
          · exact absurd hp hdir

/-- Removing a place and what is below it changes nothing elsewhere. -/
theorem agreeOff_removeAt (fs : FileSystem) (place : Location) :
    AgreeOff place fs (fs.removeAt place) where
  home := rfl
  node := fun _ hp => node?_removeAt hp
  entries := fun _ hdir => entriesAt_removeAt hdir

end GadgetModes.FileSystem
