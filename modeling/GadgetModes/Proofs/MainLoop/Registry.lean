import GadgetModes.MainLoop.Script
import GadgetModes.Proofs.MainLoop.Visits

/-!
# The watches of a loop and their ends

A loop in use goes through a history: watches are added and removed, rounds are made, and
others work with the pipes (`History`). Notes are taken of the watches that are added and of
those that are dismissed, by a removal or by the reply of their own callback. The notes tell
which watches there are, and which ends of pipes are open (`Registered`).

What the callbacks do is arbitrary, but for one thing: an end that was moved into the loop is
the loop's, and no callback closes it (`Considerate`).
-/

namespace GadgetModes.MainLoop

open GadgetModes.Log

variable {κ α : Type}

/-! ## Notes -/

inductive Note where
  | added (id : Nat) (descriptor : Descriptor)
  | dismissed (id : Nat)
deriving DecidableEq

/-- The watches that were added, with the ends that were moved into the loop for them. -/
def additions (trace : List Note) : List (Nat × Descriptor) :=
  trace.filterMap fun
    | .added id d => some (id, d)
    | .dismissed _ => none

def issued (trace : List Note) : List Nat :=
  (additions trace).map (·.1)

/-- A watch was added and not dismissed since. -/
def Live (trace : List Note) (id : Nat) : Prop :=
  ∃ before d after, trace = before ++ .added id d :: after ∧ .dismissed id ∉ after

section Notes

variable {trace : List Note} {id id' : Nat} {d : Descriptor}

theorem not_live_nil : ¬Live [] id := by
  rintro ⟨before, d, after, h, -⟩
  simp at h

theorem live_added : Live (trace ++ [.added id' d]) id ↔ Live trace id ∨ id = id' := by
  constructor
  · rintro ⟨before, d', after, h, hafter⟩
    rcases List.eq_nil_or_concat after with rfl | ⟨after, note, rfl⟩
    · obtain ⟨-, hlast⟩ := List.append_inj' h rfl
      simp only [List.cons.injEq, Note.added.injEq, and_true] at hlast
      exact .inr hlast.1.symm
    · rw [List.concat_eq_append, ← List.cons_append, ← List.append_assoc] at h
      obtain ⟨htrace, -⟩ := List.append_inj' h rfl
      refine .inl ⟨before, d', after, htrace, fun hmem => hafter ?_⟩
      rw [List.concat_eq_append]
      exact List.mem_append_left _ hmem
  · rintro (⟨before, d', after, rfl, hafter⟩ | rfl)
    · exact ⟨before, d', after ++ [.added id' d], by simp, by simpa using hafter⟩
    · exact ⟨trace, d, [], rfl, List.not_mem_nil⟩

theorem live_dismissed : Live (trace ++ [.dismissed id']) id ↔ Live trace id ∧ id ≠ id' := by
  constructor
  · rintro ⟨before, d', after, h, hafter⟩
    rcases List.eq_nil_or_concat after with rfl | ⟨after, note, rfl⟩
    · obtain ⟨-, hlast⟩ := List.append_inj' h rfl
      simp at hlast
    · rw [List.concat_eq_append, ← List.cons_append, ← List.append_assoc] at h
      obtain ⟨htrace, hlast⟩ := List.append_inj' h rfl
      obtain rfl : note = .dismissed id' := (List.singleton_inj.mp hlast).symm
      rw [List.concat_eq_append, List.mem_append, List.mem_singleton, not_or] at hafter
      exact ⟨⟨before, d', after, htrace, hafter.1⟩, fun hid => hafter.2 (by rw [hid])⟩
  · rintro ⟨⟨before, d', after, rfl, hafter⟩, hne⟩
    exact ⟨before, d', after ++ [.dismissed id'], by simp, by simpa using ⟨hafter, hne⟩⟩

theorem additions_added : additions (trace ++ [.added id d]) = additions trace ++ [(id, d)] := by
  simp [additions]

theorem additions_dismissed : additions (trace ++ [.dismissed id]) = additions trace := by
  simp [additions]

/-- A number that is issued once stands for one end. -/
theorem addition_unique (h : (issued trace).Pairwise (· < ·)) {x y : Nat × Descriptor}
    (hx : x ∈ additions trace) (hy : y ∈ additions trace) (hxy : x.1 = y.1) : x = y :=
  List.inj_on_of_nodup_map (h.imp Nat.ne_of_lt) hx hy hxy

end Notes

/-! ## Histories -/

/-- An end that a loop watches is the loop's. -/
def Owns (l : MainLoop κ) (d : Descriptor) : Prop :=
  ∃ w ∈ l.watches, w.descriptor = d

/-- The watches whose callbacks a round calls, with what was reported for them. -/
def called (l : MainLoop κ) (h : Host α) : List (Watch κ × PollFlags) :=
  if h.fileLimit < l.watches.length then [] else l.ready h.pipes

/-- The watches that are to go, as their callbacks reply one after the other. -/
def dismissals (act : Callbacks κ α) : List (Watch κ × PollFlags) → Host α → List Nat
  | [], _ => []
  | (w, revents) :: rest, h =>
    match act w.callback w.descriptor revents h with
    | .aborted _ => []
    | .done action _ h => (if action = .remove then [w.id] else []) ++ dismissals act rest h

/-- What the callbacks do to pipes in a round leaves the ends of the loop open. -/
def Considerate (act : Callbacks κ α) (l : MainLoop κ) (h : Host α) : Prop :=
  ∀ s, serve act (l.called h) h = .ok s → Pipes.Usage l.Owns h.pipes s.host.pipes

/-- What can happen to a new loop in a process, with the notes that are taken. An end that is
moved into the loop is open and not the loop's already; and whatever else happens in the
process, others do not close the ends of the loop. -/
inductive History (act : Callbacks κ α) (h₀ : Host α) : List Note → MainLoop κ → Host α → Prop
  | new : History act h₀ [] {} h₀
  | add {trace : List Note} {l : MainLoop κ} {h : Host α} (hist : History act h₀ trace l h)
      {d : Descriptor} (hopen : h.pipes.isOpen d = true) (hfree : ¬l.Owns d)
      (conditions : PollFlags) (callback : κ) :
      History act h₀ (trace ++ [.added (l.addWatch h d conditions callback).1 d])
        (l.addWatch h d conditions callback).2.1 (l.addWatch h d conditions callback).2.2
  | remove {trace : List Note} {l : MainLoop κ} {h : Host α} (hist : History act h₀ trace l h)
      (id : Nat) :
      History act h₀ (trace ++ if (l.removeWatch h id).1 then [.dismissed id] else [])
        (l.removeWatch h id).2.1 (l.removeWatch h id).2.2
  | iterate {trace : List Note} {l : MainLoop κ} {h : Host α} (hist : History act h₀ trace l h)
      (hconsiderate : Considerate act l h) (timed : Bool)
      (hlives : (l.iterate act timed h).outcome ≠ .aborted) :
      History act h₀ (trace ++ (dismissals act (l.called h) h).map .dismissed)
        (l.iterate act timed h).loop (l.iterate act timed h).host
  | forget {trace : List Note} {l : MainLoop κ} {h : Host α} (hist : History act h₀ trace l h) :
      History act h₀ trace { l with quit := false } h
  | askQuit {trace : List Note} {l : MainLoop κ} {h : Host α}
      (hist : History act h₀ trace l h) : History act h₀ trace l.askQuit h
  | others {trace : List Note} {l : MainLoop κ} {h h' : Host α}
      (hist : History act h₀ trace l h) (husage : Pipes.Usage l.Owns h.pipes h'.pipes) :
      History act h₀ trace l h'

/-! ## What a history keeps -/

/-- What the notes of a history tell of a loop. -/
structure Registered (trace : List Note) (l : MainLoop κ) (h : Host α) : Prop where
  ascending : (l.watches.map (·.id)).Pairwise (· < ·)
  issued : (issued trace).Pairwise (· < ·)
  next : ∀ id ∈ MainLoop.issued trace, id < l.nextId
  live : ∀ id, l.hasWatch id = true ↔ Live trace id
  added : ∀ w ∈ l.watches, (w.id, w.descriptor) ∈ additions trace
  distinct : (l.watches.map (·.descriptor)).Nodup
  made : ∀ x ∈ additions trace, ∃ p, h.pipes.pipe? x.2.pipe = some p
  ends : ∀ x ∈ additions trace, h.pipes.isOpen x.2 = l.hasWatch x.1

theorem hasWatch_iff {l : MainLoop κ} {id : Nat} :
    l.hasWatch id = true ↔ ∃ w ∈ l.watches, w.id = id := by
  simp [hasWatch]

namespace Registered

variable {trace : List Note} {l : MainLoop κ} {h h' : Host α} {d : Descriptor}

/-- In a loop that is in use the numbers tell the watches apart. -/
theorem numbered (hr : Registered trace l h) : l.Numbered :=
  hr.ascending.imp Nat.ne_of_lt

/-- The watch of a number that was issued is on the end that was moved in for it. -/
theorem descriptor_eq (hr : Registered trace l h) {x : Nat × Descriptor}
    (hx : x ∈ additions trace) {w : Watch κ} (hw : w ∈ l.watches) (hid : w.id = x.1) :
    w.descriptor = x.2 :=
  congrArg Prod.snd (addition_unique hr.issued (hr.added w hw) hx hid)

theorem owns_iff (hr : Registered trace l h) {x : Nat × Descriptor} (hx : x ∈ additions trace)
    (hwatch : l.hasWatch x.1 = true) : l.Owns x.2 := by
  obtain ⟨w, hw, hid⟩ := hasWatch_iff.mp hwatch
  exact ⟨w, hw, hr.descriptor_eq hx hw hid⟩

theorem new (h : Host α) : Registered [] ({} : MainLoop κ) h where
  ascending := .nil
  issued := .nil
  next := by simp [MainLoop.issued, additions]
  live := by
    intro id
    simp [hasWatch, not_live_nil]
  added := by simp
  distinct := .nil
  made := by simp [additions]
  ends := by simp [additions]

theorem of_later (hr : Registered trace l h) (hlater : Pipes.Later l.Owns h.pipes h'.pipes) :
    Registered trace l h' :=
  { hr with
    made := by
      intro x hx
      obtain ⟨p, hp⟩ := hr.made x hx
      exact hlater.made _ p hp
    ends := by
      intro x hx
      have hends := hr.ends x hx
      cases hwatch : l.hasWatch x.1 with
      | true => exact hlater.spared _ (hr.owns_iff hx hwatch) (hends.trans hwatch)
      | false =>
          obtain ⟨p, hp⟩ := hr.made x hx
          exact hlater.closed _ p hp (hends.trans hwatch) }

theorem addWatch (hr : Registered trace l h) (hopen : h.pipes.isOpen d = true)
    (hfree : ¬l.Owns d) (conditions : PollFlags) (callback : κ) :
    Registered (trace ++ [.added (l.addWatch h d conditions callback).1 d])
      (l.addWatch h d conditions callback).2.1 (l.addWatch h d conditions callback).2.2 := by
  have hold : ∀ w ∈ l.watches, w.id < l.nextId := fun w hw =>
    hr.next w.id (List.mem_map_of_mem (hr.added w hw))
  have hissued : MainLoop.issued (trace ++ [.added l.nextId d]) =
      MainLoop.issued trace ++ [l.nextId] := by
    rw [MainLoop.issued, additions_added, List.map_append, MainLoop.issued]
    rfl
  have hhas : ∀ id, (l.addWatch h d conditions callback).2.1.hasWatch id = true ↔
      l.hasWatch id = true ∨ id = l.nextId := by
    intro id
    rw [hasWatch_iff, hasWatch_iff]
    simp [MainLoop.addWatch, or_and_right, exists_or, eq_comm]
  have hwatches : (l.addWatch h d conditions callback).2.1.watches =
      l.watches ++ [⟨l.nextId, d, conditions, callback⟩] := rfl
  constructor
  case ascending =>
    rw [hwatches, List.map_append, List.pairwise_append]
    refine ⟨hr.ascending, by simp, ?_⟩
    simpa using hold
  case issued =>
    show (MainLoop.issued (trace ++ [.added l.nextId d])).Pairwise (· < ·)
    rw [hissued, List.pairwise_append]
    refine ⟨hr.issued, by simp, ?_⟩
    simpa using hr.next
  case next =>
    intro id hid
    have hid : id ∈ MainLoop.issued (trace ++ [.added l.nextId d]) := hid
    rw [hissued, List.mem_append, List.mem_singleton] at hid
    rcases hid with hid | rfl
    · exact Nat.lt_succ_of_lt (hr.next id hid)
    · exact Nat.lt_succ_self _
  case live =>
    intro id
    rw [hhas, live_added, hr.live]
    rfl
  case added =>
    intro w hw
    rw [hwatches] at hw
    rw [additions_added]
    rcases List.mem_append.mp hw with hw | hw
    · exact List.mem_append_left _ (hr.added w hw)
    · rw [List.mem_singleton.mp hw]
      exact List.mem_append_right _ (List.mem_singleton_self _)
  case distinct =>
    rw [hwatches, List.map_append, List.nodup_append]
    refine ⟨hr.distinct, List.nodup_singleton _, ?_⟩
    rintro e he e' he' rfl
    obtain ⟨w, hw, rfl⟩ := List.mem_map.mp he
    exact hfree ⟨w, hw, List.mem_singleton.mp he'⟩
  case made =>
    intro x hx
    rw [additions_added, List.mem_append, List.mem_singleton] at hx
    rcases hx with hx | rfl
    · exact hr.made x hx
    · obtain ⟨p, hp, -⟩ := Pipes.exists_of_isOpen hopen
      exact ⟨p, hp⟩
  case ends =>
    intro x hx
    show h.pipes.isOpen x.2 = _
    rw [Bool.eq_iff_iff, hhas]
    rw [additions_added, List.mem_append, List.mem_singleton] at hx
    rcases hx with hx | rfl
    · have hne : x.1 ≠ l.nextId := Nat.ne_of_lt (hr.next x.1 (List.mem_map_of_mem hx))
      rw [hr.ends x hx]
      simp [hne]
    · exact ⟨fun _ => .inr rfl, fun _ => hopen⟩

/-- Removing tells whether the watch was there, and takes away that watch only. -/
theorem removeWatch_eq (l : MainLoop κ) (h : Host α) (id : Nat) :
    (l.removeWatch h id).1 = l.hasWatch id
      ∧ (l.removeWatch h id).2.1.watches = l.watches.filter (·.id ≠ id) := by
  rw [MainLoop.removeWatch]
  cases hfind : l.watches.find? (·.id = id) with
  | none =>
      rw [List.find?_eq_none] at hfind
      simp only [decide_eq_true_eq] at hfind
      have hkept : l.watches.filter (·.id ≠ id) = l.watches :=
        List.filter_eq_self.mpr fun w hw => by simpa using hfind w hw
      refine ⟨?_, hkept.symm⟩
      simpa [hasWatch] using hfind
  | some w =>
      refine ⟨Eq.symm (hasWatch_iff.mpr ⟨w, List.mem_of_find?_eq_some hfind, ?_⟩), rfl⟩
      simpa using List.find?_some hfind

theorem removeWatch (hr : Registered trace l h) (id : Nat) :
    Registered (trace ++ if (l.removeWatch h id).1 then [.dismissed id] else [])
      (l.removeWatch h id).2.1 (l.removeWatch h id).2.2 := by
  cases hfind : l.watches.find? (·.id = id) with
  | none =>
      rw [MainLoop.removeWatch, hfind]
      simpa using hr
  | some w =>
      have hw : w ∈ l.watches := List.mem_of_find?_eq_some hfind
      have hid : w.id = id := by simpa using List.find?_some hfind
      have hhas : ∀ id', ({ l with watches := l.watches.filter (·.id ≠ id) } :
          MainLoop κ).hasWatch id' = true ↔ l.hasWatch id' = true ∧ id' ≠ id := by
        intro id'
        simp only [hasWatch_iff, List.mem_filter, decide_eq_true_eq]
        constructor
        · rintro ⟨v, ⟨hv, hne⟩, rfl⟩
          exact ⟨⟨v, hv, rfl⟩, hne⟩
        · rintro ⟨⟨v, hv, rfl⟩, hne⟩
          exact ⟨v, ⟨hv, hne⟩, rfl⟩
      rw [MainLoop.removeWatch, hfind]
      simp only [if_true]
      constructor
      case ascending =>
        exact hr.ascending.sublist (List.filter_sublist.map _)
      case issued =>
        rw [MainLoop.issued, additions_dismissed]
        exact hr.issued
      case next =>
        rw [MainLoop.issued, additions_dismissed]
        exact hr.next
      case live =>
        intro id'
        rw [hhas, live_dismissed, hr.live]
      case added =>
        intro v hv
        rw [additions_dismissed]
        exact hr.added v (List.mem_of_mem_filter hv)
      case distinct =>
        exact hr.distinct.sublist (List.filter_sublist.map _)
      case made =>
        intro x hx
        rw [additions_dismissed] at hx
        obtain ⟨p, hp⟩ := hr.made x hx
        have hlater : Pipes.Later (fun _ => False) h.pipes (h.pipes.close w.descriptor) :=
          .close not_false
        exact hlater.made _ p hp
      case ends =>
        intro x hx
        rw [additions_dismissed] at hx
        show (h.pipes.close w.descriptor).isOpen x.2 = _
        rw [Pipes.isOpen_close, Bool.eq_iff_iff, hhas, Bool.and_eq_true, hr.ends x hx,
          decide_eq_true_eq]
        refine and_congr_right fun hwatch => not_congr ⟨fun hx2 => ?_, fun hx1 => ?_⟩
        · -- Two watches are never on the same end.
          obtain ⟨v, hv, hvid⟩ := hasWatch_iff.mp hwatch
          have hvd : v.descriptor = w.descriptor := by rw [hr.descriptor_eq hx hv hvid, hx2]
          rw [← hvid, List.inj_on_of_nodup_map hr.distinct hv hw hvd, hid]
        · rw [hr.descriptor_eq hx hw (hid.trans hx1.symm)]

/-- Watches that are removed one after the other were all there, if they are different. -/
theorem removeWatches {ids : List Nat} (hr : Registered trace l h) (hids : ids.Nodup)
    (hthere : ∀ id ∈ ids, l.hasWatch id = true) :
    Registered (trace ++ ids.map .dismissed) (l.removeWatches h ids).1
      (l.removeWatches h ids).2 := by
  induction ids generalizing trace l h with
  | nil => simpa [MainLoop.removeWatches] using hr
  | cons id ids ih =>
      obtain ⟨hid, hids⟩ := List.nodup_cons.mp hids
      obtain ⟨htold, hwatches⟩ := removeWatch_eq l h id
      have hfirst := hr.removeWatch id
      rw [htold, hthere id (List.mem_cons_self ..), if_pos rfl] at hfirst
      have hrest := ih hfirst hids fun id' hid' => by
        obtain ⟨w, hw, hwid⟩ := hasWatch_iff.mp (hthere id' (List.mem_cons_of_mem _ hid'))
        have hne : w.id ≠ id := fun h => hid (by rwa [← h, hwid])
        exact hasWatch_iff.mpr ⟨w, by rw [hwatches]; simpa using ⟨hw, hne⟩, hwid⟩
      rw [List.append_assoc] at hrest
      exact hrest

end Registered

/-! ## Rounds -/

section Rounds

variable {act : Callbacks κ α} {trace : List Note} {l : MainLoop κ} {h : Host α}

theorem called_of_le (hlimit : l.watches.length ≤ h.fileLimit) :
    l.called h = l.ready h.pipes :=
  if_neg (Nat.not_lt.mpr hlimit)

theorem finished_eq {ready : List (Watch κ × PollFlags)} {s : Served α}
    (hs : serve act ready h = .ok s) : s.finished = dismissals act ready h := by
  induction ready generalizing h s with
  | nil =>
      obtain rfl := Except.ok.inj hs
      rfl
  | cons x rest ih =>
      obtain ⟨action, quits, h', t, hreply, hrest, hfinished, -⟩ := of_serve_cons hs
      rw [hfinished, dismissals, hreply, ih hrest]

theorem dismissals_sublist (act : Callbacks κ α) (ready : List (Watch κ × PollFlags))
    (h : Host α) : (dismissals act ready h).Sublist (ready.map (·.1.id)) := by
  induction ready generalizing h with
  | nil => exact List.Sublist.refl _
  | cons x rest ih =>
      rw [dismissals, List.map_cons]
      split
      · exact List.nil_sublist _
      · split
        · exact (ih _).cons_cons _
        · exact (ih _).cons _

/-- A round dismisses the watches whose callbacks reply that they are to go. -/
theorem Registered.iterate (hr : Registered trace l h) (hconsiderate : Considerate act l h)
    {timed : Bool} (hlives : (l.iterate act timed h).outcome ≠ .aborted) :
    Registered (trace ++ (dismissals act (l.called h) h).map .dismissed)
      (l.iterate act timed h).loop (l.iterate act timed h).host := by
  rcases iterate_cases act timed l h with
    ⟨hnone, outcome, hround, -⟩ | ⟨-, h', -, hround⟩ | ⟨hlimit, s, hserve, hround⟩
  · have hcalled : l.called h = [] := by
      rw [called]
      split
      · rfl
      · next hlimit => exact hnone.resolve_right hlimit
    rw [hround, hcalled]
    simpa [dismissals] using hr
  · rw [hround] at hlives
    exact absurd rfl hlives
  · rw [hround, called_of_le hlimit, ← finished_eq hserve]
    have husage := hconsiderate s (by rw [called_of_le hlimit, hserve])
    have hserved : Registered trace { l with quit := l.quit || s.quits } s.host :=
      { hr.of_later husage.later with }
    have hsublist : s.finished.Sublist (l.watches.map (·.id)) := by
      rw [finished_eq hserve]
      exact (dismissals_sublist act _ h).trans (ready_sublist l _)
    refine hserved.removeWatches (hr.numbered.sublist hsublist) ?_
    intro id hid
    obtain ⟨w, hw, hwid⟩ := List.mem_map.mp (hsublist.subset hid)
    exact hasWatch_iff.mpr ⟨w, hw, hwid⟩

end Rounds

/-! ## Histories and runs -/

section Histories

variable {act : Callbacks κ α} {h₀ : Host α} {trace : List Note} {l : MainLoop κ} {h : Host α}

theorem History.registered (hist : History act h₀ trace l h) : Registered trace l h := by
  induction hist with
  | new => exact .new h₀
  | add _ hopen hfree conditions callback ih => exact ih.addWatch hopen hfree conditions callback
  | remove _ id ih => exact ih.removeWatch id
  | iterate _ hconsiderate timed hlives ih => exact ih.iterate hconsiderate hlives
  | forget _ ih => exact { ih with }
  | askQuit _ ih => exact { ih with }
  | others _ husage ih => exact ih.of_later husage.later

/-- All rounds of a part of a run are considerate. -/
def ConsiderateFor (act : Callbacks κ α) (limit : Nat) (l : MainLoop κ) (h : Host α) : Prop :=
  ∀ n < limit, Considerate act (l.rounds act n h).loop (l.rounds act n h).host

/-- A part of a run goes on with the history. -/
theorem History.rounds {limit : Nat} (hist : History act h₀ trace l h)
    (hconsiderate : ConsiderateFor act limit l h)
    (hlives : (l.rounds act limit h).outcome ≠ .aborted) :
    ∃ more, History act h₀ (trace ++ more) (l.rounds act limit h).loop
      (l.rounds act limit h).host := by
  have hreports : ∀ {trace l} {h : Host α}, History act h₀ trace l h → ∀ h', h'.pipes = h.pipes →
      ∃ more, History act h₀ (trace ++ more) l h' := fun hist h' hpipes =>
    ⟨[], by rw [List.append_nil]; exact hist.others (hpipes ▸ .none)⟩
  induction limit generalizing trace l h with
  | zero =>
      rw [MainLoop.rounds]
      split
      · exact hreports hist _ rfl
      · split
        · exact hreports hist _ rfl
        · exact hreports hist _ rfl
  | succ limit ih =>
      cases hquit : l.quit with
      | true => rw [rounds_quit hquit]; exact hreports hist _ rfl
      | false =>
      by_cases hwatches : l.watches = []
      · rw [rounds_unwatched hwatches, hquit]
        exact hreports hist _ rfl
      have hnone : l.rounds act 0 h = ⟨.unfinished, l, h⟩ := by
        rw [MainLoop.rounds, if_neg (by simp [hquit]), if_neg (by simp [hwatches])]
      have hfirst : Considerate act l h := by
        have hfirst := hconsiderate 0 (Nat.succ_pos limit)
        rwa [hnone] at hfirst
      rcases rounds_succ act h hquit hwatches with ⟨⟨n, hreturned⟩, hrest⟩ | ⟨-, hends⟩
      · rw [hrest] at hlives ⊢
        have hnext := hist.iterate hfirst false (by rw [hreturned]; simp)
        obtain ⟨more, hmore⟩ := ih hnext (fun n hn => by
          rw [← hrest]
          exact hconsiderate (n + 1) (Nat.succ_lt_succ hn)) hlives
        exact ⟨_, by rwa [List.append_assoc] at hmore⟩
      · obtain ⟨hloop, hhost, -, haborted⟩ := hends limit
        rw [hloop, hhost]
        exact ⟨_, hist.iterate hfirst false fun h => hlives (haborted.mpr h)⟩

theorem mem_additions {id : Nat} {d : Descriptor} :
    (id, d) ∈ additions trace ↔ .added id d ∈ trace := by
  rw [additions, List.mem_filterMap]
  constructor
  · rintro ⟨note, hnote, heq⟩
    cases note with
    | added id' d' =>
        obtain ⟨rfl, rfl⟩ := Prod.mk.inj (Option.some.inj heq)
        exact hnote
    | dismissed id' => cases heq
  · exact fun h => ⟨_, h, rfl⟩

theorem Registered.length_eq (hr : Registered trace l h) :
    l.watches.length = {id | Live trace id}.ncard := by
  have hlive : {id | Live trace id} = ↑(l.watches.map (·.id)).toFinset := by
    ext id
    rw [Set.mem_ofPred_eq, ← hr.live, hasWatch_iff]
    simp
  rw [hlive, Set.ncard_coe_finset, List.toFinset_card_of_nodup hr.numbered, List.length_map]

/-- At any time in the life of a loop its watches have ascending numbers of which none was
issued before, and there are those that were added and not dismissed since. Removing one tells
whether it was there, and leaves the others. An end that was moved into the loop is open as
long as its watch is there; after that writers are told that the pipe is broken, and readers
see a hangup and the end of the data. All this holds during a run as well. -/
theorem registry (hist : History act h₀ trace l h) :
    Registered trace l h
      ∧ (∀ id, (l.removeWatch h id).1 = l.hasWatch id
          ∧ (l.removeWatch h id).2.1.watches = l.watches.filter (·.id ≠ id))
      ∧ l.watches.length = {id | Live trace id}.ncard
      ∧ (∀ id n, .added id ⟨n, .read⟩ ∈ trace → l.hasWatch id = false →
          h.pipes.isOpen ⟨n, .write⟩ = true →
          ∀ bytes, bytes ≠ [] → h.pipes.write ⟨n, .write⟩ bytes = .error .brokenPipe)
      ∧ (∀ id n, .added id ⟨n, .write⟩ ∈ trace → l.hasWatch id = false →
          h.pipes.isOpen ⟨n, .read⟩ = true →
          (∀ asked, (h.pipes.poll ⟨n, .read⟩ asked).hangup = true)
            ∧ ∃ p, h.pipes.pipe? n = some p ∧ ∀ count, ∃ ps,
                h.pipes.read ⟨n, .read⟩ count = .ok (p.buffered.take count, ps))
      ∧ ∀ limit,
          (ConsiderateFor act limit l h → (l.rounds act limit h).outcome ≠ .aborted →
            ∃ more, History act h₀ (trace ++ more) (l.rounds act limit h).loop
              (l.rounds act limit h).host)
          ∧ (ConsiderateFor act limit { l with quit := false } h →
            (l.run act limit h).outcome ≠ .aborted →
            ∃ more, History act h₀ (trace ++ more) (l.run act limit h).loop
              (l.run act limit h).host) := by
  have hr := hist.registered
  have hclosed : ∀ {id d}, .added id d ∈ trace → l.hasWatch id = false →
      h.pipes.isOpen d = false := by
    intro id d hadded hgone
    rw [hr.ends (id, d) (mem_additions.mpr hadded), hgone]
  refine ⟨hr, Registered.removeWatch_eq l h, hr.length_eq, ?_, ?_, fun limit => ⟨?_, ?_⟩⟩
  · intro id n hadded hgone hwrite bytes hbytes
    exact Pipes.write_of_closed hwrite (hclosed hadded hgone) hbytes
  · intro id n hadded hgone hread
    exact Pipes.read_of_closed hread (hclosed hadded hgone)
  · exact hist.rounds
  · exact hist.forget.rounds

end Histories

/-! ## Scripts -/

section Scripts

variable {act : Callbacks κ α} {spared : Descriptor → Prop}

/-- What callbacks do in a row they do together. -/
theorem serve_usage
    (hact : ∀ k d revents h action quits h', act k d revents h = .done action quits h' →
      Pipes.Usage spared h.pipes h'.pipes)
    {ready : List (Watch κ × PollFlags)} {h : Host α} {s : Served α}
    (hs : serve act ready h = .ok s) : Pipes.Usage spared h.pipes s.host.pipes := by
  induction ready generalizing h s with
  | nil =>
      obtain rfl := Except.ok.inj hs
      exact .none
  | cons x rest ih =>
      obtain ⟨action, quits, h', t, hreply, hrest, -, -, hhost⟩ := of_serve_cons hs
      rw [hhost]
      exact (hact _ _ _ _ _ _ _ hreply).trans (ih hrest)

/-- A script reads, if anything. -/
theorem considerate_script (l : MainLoop Script) (h : Host (List Call)) :
    Considerate Script.act l h := by
  intro s hs
  refine serve_usage ?_ hs
  intro k d revents h action quits h' hreply
  obtain ⟨-, -, rfl⟩ := Reply.done.inj hreply
  show Pipes.Usage _ _ (k.readFrom d h).2.pipes
  rw [Script.readFrom]
  split
  · exact .none
  · split
    · exact .none
    · next hread => exact Pipes.Usage.none.read hread

/-- A pipe whose read end is watched by a script that goes at its first call, and into which
something was written. -/
theorem registry_goneAtFirstCall :
    ∃ trace l h, History Script.act { data := [] } trace l h
      ∧ trace = [.added 1 ⟨0, .read⟩, .dismissed 1]
      ∧ l.watches.length = {id | Live trace id}.ncard
      ∧ h.pipes.write ⟨0, .write⟩ [1] = .error .brokenPipe := by
  have hmade : History Script.act { data := [] } [] {} { pipes := ⟨[{}]⟩, data := [] } :=
    History.new.others (.create .none)
  have hadded := hmade.add (d := ⟨0, .read⟩) (by decide) (by simp [Owns]) { readable := true }
    { number := 0, removeAfter := some 1 }
  have hwrite : Pipes.write ⟨[{}]⟩ ⟨0, .write⟩ [7] = .ok ⟨[{ buffered := [7] }]⟩ := by decide
  have hwritten : History Script.act _ _ _ { data := [], pipes := ⟨[{ buffered := [7] }]⟩ } :=
    hadded.others (.write .none hwrite)
  have hround := hwritten.iterate (considerate_script _ _) true (by
    intro h
    cases h)
  obtain ⟨-, -, hcount, hbroken, -⟩ := registry hround
  exact ⟨_, _, _, hround, by decide, hcount,
    hbroken 1 0 (by decide) (by decide) (by decide) [1] (by simp)⟩

end Scripts

end GadgetModes.MainLoop
