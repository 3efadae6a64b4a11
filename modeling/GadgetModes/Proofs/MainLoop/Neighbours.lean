import GadgetModes.Proofs.MainLoop.Visits

/-!
# Watches beside each other

A loop watches for several who need not know of each other. What may happen without concerning
one of them is said by a relation between hosts. A watch keeps aloof when its callback stays
within the relation, and so does its removal (`Aloof`).

Of a round in which all other watches keep aloof, the one watch notices nothing but its own
callback. That is called once, if anything was reported for the watch, and on a host that is
related to the one before the round (`Numbered.iterate_beside`).
-/

namespace GadgetModes.MainLoop

open GadgetModes.Log

variable {κ α : Type} {act : Callbacks κ α} {R : Host α → Host α → Prop} {l : MainLoop κ}
  {h h' : Host α} {w own : Watch κ} {visits : List (Visit κ)}

/-! ## Keeping aloof -/

structure Aloof (act : Callbacks κ α) (R : Host α → Host α → Prop) (w : Watch κ) : Prop where
  called : ∀ {revents h action quits h'},
    act w.callback w.descriptor revents h = .done action quits h' → R h h'
  removed : ∀ h, R h (dismiss [w] h)

/-- The callback of a watch can bring the process down. -/
def Aborts (act : Callbacks κ α) (w : Watch κ) : Prop :=
  ∃ revents h h', act w.callback w.descriptor revents h = .aborted h'

section Aloof

variable [IsPreorder (Host α) R]

theorem Visits.aloof (hvisits : Visits act visits h h')
    (haloof : ∀ v ∈ visits, Aloof act R v.watch) : R h h' := by
  induction hvisits with
  | none h => exact refl_of R h
  | next hcall _ ih =>
      exact trans_of R ((haloof _ (List.mem_cons_self ..)).called hcall)
        (ih fun v hv => haloof v (List.mem_cons_of_mem _ hv))

theorem dismiss_aloof {gone : List (Watch κ)} (haloof : ∀ w ∈ gone, Aloof act R w)
    (h : Host α) : R h (dismiss gone h) := by
  induction gone generalizing h with
  | nil => exact refl_of R h
  | cons w gone ih =>
      exact trans_of R ((haloof w (List.mem_cons_self ..)).removed h)
        (ih (fun w hw => haloof w (List.mem_cons_of_mem _ hw)) _)

theorem leaving_aloof (haloof : ∀ v ∈ visits, Aloof act R v.watch) (h : Host α) :
    R h (dismiss (leaving visits) h) := by
  have hgone : ∀ w ∈ leaving visits, Aloof act R w := by
    intro w hw
    obtain ⟨v, hv, rfl⟩ := List.mem_map.mp hw
    exact haloof v (List.mem_of_mem_filter hv)
  exact dismiss_aloof hgone h

theorem dismiss_append (gone later : List (Watch κ)) (h : Host α) :
    dismiss (gone ++ later) h = dismiss later (dismiss gone h) :=
  List.foldl_append

/-- Of several visits, and the removals after them, one notices only its own, when the watches
of the others keep aloof. -/
theorem Visits.beside {before after : List (Visit κ)} {v : Visit κ}
    (hvisits : Visits act (before ++ v :: after) h h')
    (hothers : ∀ u ∈ before ++ after, Aloof act R u.watch) :
    ∃ g g', R h g
      ∧ act v.watch.callback v.watch.descriptor v.revents g = .done v.action v.quits g'
      ∧ (v.action = .goOn → R g' (dismiss (leaving (before ++ v :: after)) h'))
      ∧ (v.action = .remove → ∃ g'', R g' g''
        ∧ R (dismiss [v.watch] g'') (dismiss (leaving (before ++ v :: after)) h')) := by
  obtain ⟨g, g', hbefore, hcall, hafter⟩ := hvisits.of_append
  have hfirst : ∀ u ∈ before, Aloof act R u.watch :=
    fun u hu => hothers u (List.mem_append_left _ hu)
  have hlast : ∀ u ∈ after, Aloof act R u.watch :=
    fun u hu => hothers u (List.mem_append_right _ hu)
  have hafter : R g' (dismiss (leaving before) h') :=
    trans_of R (hafter.aloof hlast) (leaving_aloof hfirst h')
  have hgone : leaving (before ++ v :: after) =
      leaving before ++ ((if v.action = .remove then [v.watch] else []) ++ leaving after) := by
    rw [leaving_append, leaving_cons]
  refine ⟨g, g', hbefore.aloof hfirst, hcall, fun haction => ?_, fun haction => ?_⟩
  · rw [hgone, haction, if_neg (by simp), List.nil_append, dismiss_append]
    exact trans_of R hafter (leaving_aloof hlast _)
  · rw [hgone, if_pos haction, dismiss_append, dismiss_append]
    exact ⟨_, hafter, leaving_aloof hlast _⟩

end Aloof

/-! ## The watches of a round -/

/-- A round adds no watch, and gives no number. -/
theorem iterate_watches (act : Callbacks κ α) (timed : Bool) (l : MainLoop κ) (h : Host α) :
    (iterate act timed l h).loop.watches.Sublist l.watches
      ∧ (iterate act timed l h).loop.nextId = l.nextId := by
  have hremove : ∀ (ids : List Nat) (l : MainLoop κ) (h : Host α),
      (l.removeWatches h ids).1.watches.Sublist l.watches
        ∧ (l.removeWatches h ids).1.nextId = l.nextId := by
    intro ids
    induction ids with
    | nil => exact fun l h => ⟨.refl _, rfl⟩
    | cons id ids ih =>
        intro l h
        rw [removeWatches_cons]
        obtain ⟨hsublist, hnext⟩ := ih (l.removeWatch h id).2.1 (l.removeWatch h id).2.2
        have hone : (l.removeWatch h id).2.1.watches.Sublist l.watches
            ∧ (l.removeWatch h id).2.1.nextId = l.nextId := by
          rw [removeWatch]
          split
          · exact ⟨.refl _, rfl⟩
          · exact ⟨List.filter_sublist, rfl⟩
        exact ⟨hsublist.trans hone.1, hnext.trans hone.2⟩
  rcases iterate_cases act timed l h with
    ⟨-, outcome, hround, -⟩ | ⟨-, h', -, hround⟩ | ⟨-, s, -, hround⟩
  · rw [hround]
    exact ⟨.refl _, rfl⟩
  · rw [hround]
    exact ⟨.refl _, rfl⟩
  · rw [hround]
    exact hremove s.finished { l with quit := l.quit || s.quits } s.host

/-- Beside one watch that is ready all others that are so are different watches of the loop. -/
theorem Numbered.ready_beside (hl : l.Numbered) {pipes : Pipes} {x : Watch κ × PollFlags}
    {before after : List (Watch κ × PollFlags)} (hready : l.ready pipes = before ++ x :: after) :
    ∀ y ∈ before ++ after, y.1 ∈ l.watches ∧ y.1 ≠ x.1 := by
  intro y hy
  have hmem : y ∈ l.ready pipes := by
    rw [hready, List.mem_append, List.mem_cons, or_left_comm, ← List.mem_append]
    exact .inr hy
  refine ⟨(mem_ready_iff.mp hmem).1, fun heq => ?_⟩
  have hnodup : ((l.ready pipes).map (·.1.id)).Nodup := hl.sublist (ready_sublist l pipes)
  rw [hready, List.map_append, List.map_cons, List.nodup_middle, List.nodup_cons,
    ← List.map_append] at hnodup
  exact hnodup.1 (List.mem_map.mpr ⟨y, hy, congrArg (·.id) heq⟩)

/-! ## A round beside others -/

/-- What a round comes to for one of the watches of a loop, by what is reported for it. -/
inductive Beside (act : Callbacks κ α) (R : Host α → Host α → Prop) (own : Watch κ)
    (revents : PollFlags) (l : MainLoop κ) (h : Host α) : Turn κ α Nat → Prop
  /-- Nothing is reported, or the poll fails. -/
  | spared {outcome : Outcome Nat} {l' : MainLoop κ} {h' : Host α}
      (hquiet : revents = .none ∨ h.fileLimit < l.watches.length) (hlives : outcome ≠ .aborted)
      (hothers : R h h') (hstays : own ∈ l'.watches) :
      Beside act R own revents l h ⟨outcome, l', h'⟩
  | stays {quits : Bool} {g g' h' : Host α} {count : Nat} {l' : MainLoop κ}
      (hreported : revents ≠ .none) (hlimit : l.watches.length ≤ h.fileLimit) (hbefore : R h g)
      (hcall : act own.callback own.descriptor revents g = .done .goOn quits g')
      (hafter : R g' h') (hstays : own ∈ l'.watches) :
      Beside act R own revents l h ⟨.returned count, l', h'⟩
  | goes {quits : Bool} {g g' g'' h' : Host α} {count : Nat} {l' : MainLoop κ}
      (hreported : revents ≠ .none) (hlimit : l.watches.length ≤ h.fileLimit) (hbefore : R h g)
      (hcall : act own.callback own.descriptor revents g = .done .remove quits g')
      (hafter : R g' g'') (hothers : R (dismiss [own] g'') h') (hgoes : own ∉ l'.watches) :
      Beside act R own revents l h ⟨.returned count, l', h'⟩
  | aborts {g h' : Host α}
      (hreported : revents ≠ .none) (hlimit : l.watches.length ≤ h.fileLimit) (hbefore : R h g)
      (hcall : act own.callback own.descriptor revents g = .aborted h') :
      Beside act R own revents l h ⟨.aborted, l, h'⟩
  /-- The callback of another watch brings the process down. -/
  | otherAborts {w : Watch κ} {h' : Host α} (hw : w ∈ l.watches) (hne : w ≠ own)
      (haborts : Aborts act w) : Beside act R own revents l h ⟨.aborted, l, h'⟩

variable [IsPreorder (Host α) R]

/-- A round of watches that all keep aloof: it stays within the relation. -/
theorem Numbered.iterate_aloof (hl : l.Numbered) (haloof : ∀ w ∈ l.watches, Aloof act R w)
    (timed : Bool) :
    ((iterate act timed l h).outcome = .aborted ∧ ∃ w ∈ l.watches, Aborts act w)
      ∨ ((iterate act timed l h).outcome ≠ .aborted ∧ R h (iterate act timed l h).host) := by
  rcases iterate_cases act timed l h with
    ⟨-, outcome, hround, houtcome⟩ | ⟨-, h', hserve, hround⟩ | ⟨-, s, hserve, hround⟩
  · rw [hround]
    exact .inr ⟨by rcases houtcome with rfl | rfl | rfl <;> simp, refl_of R h⟩
  · rw [hround]
    obtain ⟨visits, w, revents, rest, g, hready, -, hcall⟩ := visits_of_serve_error hserve
    have hmem : (w, revents) ∈ l.ready h.pipes := by simp [hready]
    exact .inl ⟨rfl, w, (mem_ready_iff.mp hmem).1, revents, g, h', hcall⟩
  · obtain ⟨visits, hvisits, htold, hfinished, -⟩ := visits_of_serve hserve
    obtain ⟨hnodup, hthere⟩ := hl.leaving htold
    have hl' : ({ l with quit := l.quit || s.quits } : MainLoop κ).Numbered := hl
    rw [hfinished, hl'.removeWatches hthere hnodup] at hround
    have haloof : ∀ v ∈ visits, Aloof act R v.watch :=
      fun v hv => haloof _ (of_mem_visits htold hv).1
    rw [hround]
    exact .inr ⟨by simp, trans_of R (hvisits.aloof haloof) (leaving_aloof haloof s.host)⟩

/-- What one watch notices of a round in which all others keep aloof. -/
theorem Numbered.iterate_beside (hl : l.Numbered) (hown : own ∈ l.watches)
    (hothers : ∀ w ∈ l.watches, w ≠ own → Aloof act R w) (timed : Bool) :
    Beside act R own (h.pipes.poll own.descriptor own.conditions) l h
      (iterate act timed l h) := by
  rcases iterate_cases act timed l h with
    ⟨hquiet, outcome, hround, houtcome⟩ | ⟨hlimit, h', hserve, hround⟩ | ⟨hlimit, s, hserve, hround⟩
  · rw [hround]
    refine .spared (hquiet.imp_left fun hready => ?_) ?_ (refl_of R h) hown
    · by_contra hreported
      have hmem := mem_ready_iff.mpr ⟨hown, rfl, hreported⟩
      rw [hready] at hmem
      cases hmem
    · rcases houtcome with rfl | rfl | rfl <;> simp
  · rw [hround]
    obtain ⟨visits, w, revents, rest, g, hready, hvisits, hcall⟩ := visits_of_serve_error hserve
    have hmem : (w, revents) ∈ l.ready h.pipes := by simp [hready]
    obtain ⟨hw, rfl, hreported⟩ := mem_ready_iff.mp hmem
    by_cases hne : w = own
    · subst hne
      refine .aborts hreported hlimit (hvisits.aloof fun v hv => ?_) hcall
      obtain ⟨hv, hne⟩ := hl.ready_beside hready v.told
        (List.mem_append_left _ (List.mem_map_of_mem hv))
      exact hothers _ hv hne
    · exact .otherAborts hw hne ⟨_, g, h', hcall⟩
  · obtain ⟨visits, hvisits, htold, hfinished, -⟩ := visits_of_serve hserve
    obtain ⟨hnodup, hthere⟩ := hl.leaving htold
    have hl' : ({ l with quit := l.quit || s.quits } : MainLoop κ).Numbered := hl
    rw [hfinished, hl'.removeWatches hthere hnodup] at hround
    have hstays := hl.mem_filter_leaving htold hown
    rw [hround]
    by_cases hreported : h.pipes.poll own.descriptor own.conditions = .none
    · have hunvisited : ∀ v ∈ visits, v.watch ≠ own := by
        intro v hv hwatch
        exact (visited_iff htold hown).mp ⟨v, hv, hwatch⟩ hreported
      have haloof : ∀ v ∈ visits, Aloof act R v.watch :=
        fun v hv => hothers _ (of_mem_visits htold hv).1 (hunvisited v hv)
      exact .spared (.inl hreported) (by simp)
        (trans_of R (hvisits.aloof haloof) (leaving_aloof haloof s.host))
        (hstays.mpr fun v hv hwatch => absurd hwatch (hunvisited v hv))
    · obtain ⟨v, hv, rfl⟩ := (visited_iff htold hown).mpr hreported
      have hrevents := (of_mem_visits htold hv).2.1
      obtain ⟨before, after, rfl⟩ := List.append_of_mem hv
      have hbeside : ∀ u ∈ before ++ after, u.watch ≠ v.watch ∧ Aloof act R u.watch := by
        intro u hu
        rw [List.map_append, List.map_cons] at htold
        obtain ⟨hu, hne⟩ := hl.ready_beside htold.symm u.told
          (by rw [← List.map_append]; exact List.mem_map_of_mem hu)
        exact ⟨hne, hothers _ hu hne⟩
      obtain ⟨g, g', hbefore, hcall, hgoOn, hremove⟩ :=
        hvisits.beside fun u hu => (hbeside u hu).2
      rw [hrevents] at hcall
      cases haction : v.action with
      | goOn =>
          rw [haction] at hcall
          refine .stays hreported hlimit hbefore hcall (hgoOn haction) (hstays.mpr ?_)
          intro u hu hwatch
          rcases List.mem_append.mp hu with hu | hu
          · exact absurd hwatch (hbeside u (List.mem_append_left _ hu)).1
          · rcases List.mem_cons.mp hu with rfl | hu
            · exact haction
            · exact absurd hwatch (hbeside u (List.mem_append_right _ hu)).1
      | remove =>
          rw [haction] at hcall
          obtain ⟨g'', hafter, hlast⟩ := hremove haction
          refine .goes hreported hlimit hbefore hcall hafter hlast fun hmem => ?_
          rw [hstays.mp hmem v hv rfl] at haction
          cases haction

end GadgetModes.MainLoop
