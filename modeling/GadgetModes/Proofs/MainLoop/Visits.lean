import GadgetModes.Proofs.Host.Pipes
import GadgetModes.Proofs.MainLoop.Rounds

/-!
# Visits of a round

A round asks for the conditions of all watches first. Whatever the callbacks then do, it visits
exactly the watches for which something was reported, each of them once and in order, and tells
each what was reported before the first of them ran (`iterate_visits`). The watches that go are
those whose callbacks said so, and they go after the last visit.

`Visits` says what it is to call callbacks one after the other. It knows of no loop, of no list
of ready watches and of no removal.
-/

namespace GadgetModes.MainLoop

open GadgetModes.Log

variable {κ α : Type} {act : Callbacks κ α}

/-! ## Calls in a row -/

/-- A callback that was called for its watch and returned: what was reported to it, and what it
replied. -/
structure Visit (κ : Type) where
  watch : Watch κ
  revents : PollFlags
  action : Action
  quits : Bool

/-- Callbacks are called one after the other, each on the host that the one before left. -/
inductive Visits (act : Callbacks κ α) : List (Visit κ) → Host α → Host α → Prop
  | none (h : Host α) : Visits act [] h h
  | next {v : Visit κ} {visits : List (Visit κ)} {h h' h'' : Host α}
      (hcall : act v.watch.callback v.watch.descriptor v.revents h = .done v.action v.quits h')
      (hrest : Visits act visits h' h'') : Visits act (v :: visits) h h''

def Visit.told (v : Visit κ) : Watch κ × PollFlags :=
  (v.watch, v.revents)

/-- The watches whose callbacks replied that they are to go. -/
def leaving (visits : List (Visit κ)) : List (Watch κ) :=
  (visits.filter (·.action = .remove)).map (·.watch)

theorem leaving_cons (v : Visit κ) (visits : List (Visit κ)) :
    leaving (v :: visits) =
      (if v.action = .remove then [v.watch] else []) ++ leaving visits := by
  rw [leaving, List.filter_cons]
  by_cases hv : v.action = .remove <;> simp [hv, leaving]

theorem leaving_append (before after : List (Visit κ)) :
    leaving (before ++ after) = leaving before ++ leaving after := by
  rw [leaving, List.filter_append, List.map_append]
  rfl

/-- Of calls in a row those after some call go on from the host that it left. -/
theorem Visits.of_append {before after : List (Visit κ)} {v : Visit κ} {h h' : Host α}
    (hvisits : Visits act (before ++ v :: after) h h') :
    ∃ g g', Visits act before h g
      ∧ act v.watch.callback v.watch.descriptor v.revents g = .done v.action v.quits g'
      ∧ Visits act after g' h' := by
  induction before generalizing h with
  | nil =>
      cases hvisits with
      | next hcall hrest => exact ⟨h, _, .none h, hcall, hrest⟩
  | cons u before ih =>
      cases hvisits with
      | next hcall hrest =>
          obtain ⟨g, g', hbefore, hmiddle, hafter⟩ := ih hrest
          exact ⟨g, g', .next hcall hbefore, hmiddle, hafter⟩

/-- What was done for the ready watches in a round of which no callback aborts. -/
theorem visits_of_serve {ready : List (Watch κ × PollFlags)} {h : Host α} {s : Served α}
    (hs : serve act ready h = .ok s) :
    ∃ visits, Visits act visits h s.host ∧ visits.map Visit.told = ready
      ∧ s.finished = (leaving visits).map (·.id) ∧ s.quits = visits.any (·.quits) := by
  induction ready generalizing h s with
  | nil =>
      obtain rfl := Except.ok.inj hs
      exact ⟨[], .none h, rfl, rfl, rfl⟩
  | cons x rest ih =>
      obtain ⟨action, quits, h', t, hreply, hrest, hfinished, hquits, hhost⟩ := of_serve_cons hs
      obtain ⟨visits, hvisits, htold, hleaving, hasked⟩ := ih hrest
      refine ⟨⟨x.1, x.2, action, quits⟩ :: visits, ?_, ?_, ?_, ?_⟩
      · rw [hhost]
        exact .next hreply hvisits
      · rw [List.map_cons, htold]
        rfl
      · rw [hfinished, leaving_cons, hleaving]
        by_cases haction : action = .remove <;> simp [haction]
      · rw [hquits, hasked, List.any_cons]

/-- Calling callbacks one after the other is what a round does with them. -/
theorem serve_of_visits {visits : List (Visit κ)} {h h' : Host α}
    (hvisits : Visits act visits h h') :
    serve act (visits.map Visit.told) h =
      .ok ⟨(leaving visits).map (·.id), visits.any (·.quits), h'⟩ := by
  induction hvisits with
  | none h => rfl
  | next hcall _ ih =>
      rw [List.map_cons, Visit.told, serve, hcall]
      simp only
      rw [ih, leaving_cons]
      split <;> rfl

/-- What was done for the ready watches up to a callback that brought the process down. -/
theorem visits_of_serve_error {ready : List (Watch κ × PollFlags)} {h h' : Host α}
    (hs : serve act ready h = .error h') :
    ∃ visits w revents rest h₁, ready = visits.map Visit.told ++ (w, revents) :: rest
      ∧ Visits act visits h h₁ ∧ act w.callback w.descriptor revents h₁ = .aborted h' := by
  induction ready generalizing h with
  | nil => cases hs
  | cons x rest ih =>
      rw [serve] at hs
      cases hreply : act x.1.callback x.1.descriptor x.2 h with
      | aborted h₁ =>
          simp only [hreply] at hs
          obtain rfl := Except.error.inj hs
          exact ⟨[], x.1, x.2, rest, h, rfl, .none h, hreply⟩
      | done action quits h₁ =>
          simp only [hreply] at hs
          cases hrest : serve act rest h₁ with
          | ok t =>
              rw [hrest] at hs
              cases hs
          | error h₂ =>
              rw [hrest] at hs
              obtain rfl := Except.error.inj hs
              obtain ⟨visits, w, revents, left, h₃, rfl, hvisits, haborts⟩ := ih hrest
              exact ⟨⟨x.1, x.2, action, quits⟩ :: visits, w, revents, left, h₃, rfl,
                .next hreply hvisits, haborts⟩

/-! ## Watches that go -/

/-- A host after the ends of watches were closed, and their removal was reported. -/
def dismiss (watches : List (Watch κ)) (h : Host α) : Host α :=
  watches.foldl (fun h w => (h.close w.descriptor).report (.watchRemoved w.id)) h

/-- Numbers tell the watches of a loop apart. -/
def Numbered (l : MainLoop κ) : Prop :=
  (l.watches.map (·.id)).Nodup

theorem Numbered.eq_of_id {l : MainLoop κ} (hl : l.Numbered) {v w : Watch κ}
    (hv : v ∈ l.watches) (hw : w ∈ l.watches) (hid : v.id = w.id) : v = w :=
  List.inj_on_of_nodup_map hl hv hw hid

/-- A watch with the next number differs from all others. -/
theorem Numbered.append {l l' : MainLoop κ} (hl : l.Numbered)
    (hnumbers : ∀ w ∈ l.watches, w.id < l.nextId) {w : Watch κ} (hid : w.id = l.nextId)
    (hl' : l'.watches = l.watches ++ [w]) : l'.Numbered := by
  rw [Numbered, hl', List.map_append, List.map_singleton, List.nodup_append_comm,
    List.singleton_append, List.nodup_cons]
  refine ⟨fun hmem => ?_, hl⟩
  obtain ⟨v, hv, hvid⟩ := List.mem_map.mp hmem
  exact absurd (hvid.trans hid) (Nat.ne_of_lt (hnumbers v hv))

theorem Numbered.removeWatch {l : MainLoop κ} (hl : l.Numbered) {w : Watch κ}
    (hw : w ∈ l.watches) (h : Host α) :
    (l.removeWatch h w.id).2 =
      ({ l with watches := l.watches.filter (·.id ≠ w.id) }, dismiss [w] h) := by
  rw [MainLoop.removeWatch]
  cases hfind : l.watches.find? (·.id = w.id) with
  | none =>
      rw [List.find?_eq_none] at hfind
      exact absurd (decide_eq_true rfl) (hfind w hw)
  | some v =>
      have hid : v.id = w.id := by simpa using List.find?_some hfind
      obtain rfl := hl.eq_of_id (List.mem_of_find?_eq_some hfind) hw hid
      rfl

theorem removeWatches_cons (l : MainLoop κ) (h : Host α) (id : Nat) (ids : List Nat) :
    l.removeWatches h (id :: ids) =
      (l.removeWatch h id).2.1.removeWatches (l.removeWatch h id).2.2 ids :=
  rfl

/-- Watches that are removed one after the other are gone, and the others stay. -/
theorem Numbered.removeWatches {l : MainLoop κ} (hl : l.Numbered) {gone : List (Watch κ)}
    (hgone : ∀ w ∈ gone, w ∈ l.watches) (hids : (gone.map (·.id)).Nodup) (h : Host α) :
    l.removeWatches h (gone.map (·.id)) =
      ({ l with watches := l.watches.filter (·.id ∉ gone.map (·.id)) }, dismiss gone h) := by
  induction gone generalizing l h with
  | nil => simp [MainLoop.removeWatches, dismiss]
  | cons w gone ih =>
      obtain ⟨hw, hids⟩ := List.nodup_cons.mp hids
      have hfirst := hl.removeWatch (hgone w (List.mem_cons_self ..)) h
      have hrest := ih (l := { l with watches := l.watches.filter (·.id ≠ w.id) })
        (hl.sublist (List.filter_sublist.map _)) (fun v hv => by
          have hne : v.id ≠ w.id := fun hid => hw (List.mem_map.mpr ⟨v, hv, hid⟩)
          simpa [hne] using hgone v (List.mem_cons_of_mem _ hv)) hids (dismiss [w] h)
      have hboth : (l.watches.filter (·.id ≠ w.id)).filter (·.id ∉ gone.map (·.id)) =
          l.watches.filter (·.id ∉ w.id :: gone.map (·.id)) := by
        rw [List.filter_filter]
        refine List.filter_congr fun v _ => ?_
        rw [Bool.and_comm, ← Bool.decide_and]
        simp only [List.mem_cons, not_or, ne_eq]
      rw [List.map_cons, removeWatches_cons, hfirst, hrest, hboth]
      rfl

/-! ## A round -/

/-- A visit of a round is to a watch of the loop, and its watch was told what a poll says. -/
theorem of_mem_visits {l : MainLoop κ} {pipes : Pipes} {visits : List (Visit κ)}
    (htold : visits.map Visit.told = l.ready pipes) {v : Visit κ} (hv : v ∈ visits) :
    v.watch ∈ l.watches ∧ v.revents = pipes.poll v.watch.descriptor v.watch.conditions
      ∧ v.revents ≠ .none := by
  have hready : v.told ∈ l.ready pipes := by
    rw [← htold]
    exact List.mem_map_of_mem hv
  exact mem_ready_iff.mp hready

/-- No watch is visited twice. -/
theorem Numbered.nodup_visits {l : MainLoop κ} (hl : l.Numbered) {pipes : Pipes}
    {visits : List (Visit κ)} (htold : visits.map Visit.told = l.ready pipes) :
    (visits.map (·.watch.id)).Nodup := by
  have hids : visits.map (·.watch.id) = (l.ready pipes).map (·.1.id) := by
    rw [← htold, List.map_map]
    rfl
  rw [hids]
  exact hl.sublist (ready_sublist l pipes)

/-- The watches that go are different ones of the loop. -/
theorem Numbered.leaving {l : MainLoop κ} (hl : l.Numbered) {pipes : Pipes}
    {visits : List (Visit κ)} (htold : visits.map Visit.told = l.ready pipes) :
    ((MainLoop.leaving visits).map (·.id)).Nodup
      ∧ ∀ w ∈ MainLoop.leaving visits, w ∈ l.watches := by
  constructor
  · rw [MainLoop.leaving, List.map_map]
    exact (hl.nodup_visits htold).sublist (List.filter_sublist.map _)
  · intro w hw
    obtain ⟨v, hv, rfl⟩ := List.mem_map.mp hw
    exact (of_mem_visits htold (List.mem_of_mem_filter hv)).1

theorem visited_iff {l : MainLoop κ} {pipes : Pipes} {visits : List (Visit κ)}
    (htold : visits.map Visit.told = l.ready pipes) {w : Watch κ} (hw : w ∈ l.watches) :
    (∃ v ∈ visits, v.watch = w) ↔ pipes.poll w.descriptor w.conditions ≠ .none := by
  constructor
  · rintro ⟨v, hv, rfl⟩
    obtain ⟨-, hrevents, hsome⟩ := of_mem_visits htold hv
    rwa [← hrevents]
  · intro hsome
    have hready : (w, pipes.poll w.descriptor w.conditions) ∈ l.ready pipes :=
      mem_ready_iff.mpr ⟨hw, rfl, hsome⟩
    rw [← htold] at hready
    obtain ⟨v, hv, heq⟩ := List.mem_map.mp hready
    exact ⟨v, hv, congrArg Prod.fst heq⟩

/-- Of the watches those stay whose callbacks were not called, or replied that they go on. -/
theorem Numbered.mem_filter_leaving {l : MainLoop κ} (hl : l.Numbered) {pipes : Pipes}
    {visits : List (Visit κ)} (htold : visits.map Visit.told = l.ready pipes) {w : Watch κ}
    (hw : w ∈ l.watches) :
    w ∈ l.watches.filter (·.id ∉ (MainLoop.leaving visits).map (·.id)) ↔
      ∀ v ∈ visits, v.watch = w → v.action = .goOn := by
  rw [List.mem_filter, and_iff_right hw, decide_eq_true_eq]
  constructor
  · rintro hstays v hv rfl
    cases haction : v.action with
    | goOn => rfl
    | remove =>
        refine absurd (List.mem_map_of_mem (List.mem_map_of_mem (List.mem_filter.mpr ⟨hv, ?_⟩)))
          hstays
        exact decide_eq_true haction
  · intro hgoes hleaves
    obtain ⟨w', hw', hid⟩ := List.mem_map.mp hleaves
    obtain rfl := hl.eq_of_id ((hl.leaving htold).2 w' hw') hw hid
    obtain ⟨v, hv, hvw⟩ := List.mem_map.mp hw'
    obtain ⟨hv, hremove⟩ := List.mem_filter.mp hv
    rw [hgoes v hv hvw] at hremove
    cases of_decide_eq_true hremove

/-- A round calls the callbacks of the watches that are ready, each of them once, in the order
of the watches, and with the conditions of their pipes as they were before the first call. It
tells how many it called. Then the watches are gone whose callbacks replied that they are to go,
and no others; nothing else happens to loop or host. If a callback brings the process down,
those before it were called just so. When nothing is ready all stays as it is.

That there are no more watches than a poll may ask for is the assumption that the poll itself does
not fail; with more it does (`iterate_of_limit`), and no callback is called. A write end is taken
to have room for more (`Pipe.conditions`), which no step of the proof rests on. -/
theorem iterate_visits (act : Callbacks κ α) (timed : Bool) {l : MainLoop κ} {h : Host α}
    (hl : l.Numbered) (hlimit : l.watches.length ≤ h.fileLimit) :
    ((∃ visits h', Visits act visits h h' ∧ visits.map Visit.told = l.ready h.pipes
        ∧ (iterate act timed l h).outcome =
            (if visits.isEmpty && !(l.watches.isEmpty || timed) then .asleep
              else .returned visits.length)
        ∧ (iterate act timed l h).host = dismiss (leaving visits) h'
        ∧ (iterate act timed l h).loop =
            { l with
              watches := l.watches.filter (·.id ∉ (leaving visits).map (·.id))
              quit := l.quit || visits.any (·.quits) }
        ∧ ∀ w ∈ l.watches,
            ((∃ v ∈ visits, v.watch = w) ↔ h.pipes.poll w.descriptor w.conditions ≠ .none)
            ∧ (w ∈ (iterate act timed l h).loop.watches ↔
              ∀ v ∈ visits, v.watch = w → v.action = .goOn))
      ∨ ∃ visits w revents rest h₁ h₂,
          l.ready h.pipes = visits.map Visit.told ++ (w, revents) :: rest
          ∧ Visits act visits h h₁ ∧ act w.callback w.descriptor revents h₁ = .aborted h₂
          ∧ iterate act timed l h = ⟨.aborted, l, h₂⟩)
      ∧ (l.ready h.pipes = [] → iterate act timed l h =
          ⟨if l.watches.isEmpty || timed then .returned 0 else .asleep, l, h⟩) := by
  refine ⟨?_, iterate_of_ready_nil hlimit⟩
  cases hserve : serve act (l.ready h.pipes) h with
  | error h' =>
      obtain ⟨visits, w, revents, rest, h₁, hready, hvisits, haborts⟩ :=
        visits_of_serve_error hserve
      exact .inr ⟨visits, w, revents, rest, h₁, h', hready, hvisits, haborts,
        iterate_of_serve_error hlimit hserve⟩
  | ok s =>
      obtain ⟨visits, hvisits, htold, hfinished, hquits⟩ := visits_of_serve hserve
      obtain ⟨hnodup, hthere⟩ := hl.leaving htold
      have hl' : ({ l with quit := l.quit || s.quits } : MainLoop κ).Numbered := hl
      have hcount : (l.ready h.pipes).length = visits.length := by rw [← htold, List.length_map]
      have hnone : (l.ready h.pipes).isEmpty = visits.isEmpty := by
        rw [← htold, List.isEmpty_map]
      have hround := @iterate_of_serve_ok κ α act timed l h s hlimit hserve
      rw [hfinished, hl'.removeWatches hthere hnodup, hquits, hcount, hnone] at hround
      refine .inl ⟨visits, s.host, hvisits, htold, ?_, ?_, ?_, fun w hw => ⟨?_, ?_⟩⟩
      · rw [hround]
      · rw [hround]
      · rw [hround]
      · exact visited_iff htold hw
      · rw [hround]
        exact hl.mem_filter_leaving htold hw

section Example

/-- A callback that empties a pipe; if there was something in it, it asks to quit and is to go. -/
def emptying : Callbacks Descriptor Unit := fun d _ _ h =>
  match h.pipes.read d 16 with
  | .error _ => .done .goOn false h
  | .ok (_, pipes) => .done .remove true { h with pipes }

/-- Watches on three pipes; each callback empties the pipe of the next watch. -/
def threeWatched : MainLoop Descriptor where
  watches :=
    [⟨1, ⟨0, .read⟩, { readable := true }, ⟨1, .read⟩⟩,
      ⟨2, ⟨1, .read⟩, { readable := true }, ⟨2, .read⟩⟩,
      ⟨3, ⟨2, .read⟩, { readable := true }, ⟨0, .read⟩⟩]
  nextId := 4

def twoFilled : Host Unit where
  pipes := ⟨[{ buffered := [7] }, { buffered := [8] }, {}]⟩
  data := ()

/-- The second watch is visited, though the first callback emptied its pipe, asked to quit, and
was to go. -/
theorem iterate_visits_emptied :
    threeWatched.Numbered ∧ threeWatched.watches.length ≤ twoFilled.fileLimit
      ∧ ∃ visits h', Visits emptying visits twoFilled h'
        ∧ visits.map (fun v => (v.watch.id, v.revents)) =
            [(1, { readable := true }), (2, { readable := true })]
        ∧ (iterate emptying false threeWatched twoFilled).outcome = .returned 2
        ∧ ((iterate emptying false threeWatched twoFilled).loop.watches.map (·.id)) = [2, 3] := by
  have hl : threeWatched.Numbered := by
    rw [Numbered]
    decide
  have hlimit : threeWatched.watches.length ≤ twoFilled.fileLimit := by decide
  refine ⟨hl, hlimit, ?_⟩
  rcases (iterate_visits emptying false hl hlimit).1 with
    ⟨visits, h', hvisits, htold, houtcome, -⟩ | ⟨visits, w, revents, rest, h₁, h₂, -, -, haborts, -⟩
  · have htold : visits.map (fun v => (v.watch.id, v.revents)) =
        (threeWatched.ready twoFilled.pipes).map fun x => (x.1.id, x.2) := by
      rw [← htold, List.map_map]
      rfl
    exact ⟨visits, h', hvisits, htold.trans (by decide), by decide, by decide⟩
  · rw [emptying] at haborts
    split at haborts <;> cases haborts

end Example

end GadgetModes.MainLoop
