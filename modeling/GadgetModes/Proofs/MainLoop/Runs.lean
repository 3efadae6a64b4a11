import GadgetModes.MainLoop.Script
import GadgetModes.Proofs.MainLoop.Visits

/-!
# Runs as rounds

A run that returns is a number of whole rounds: as many as it takes until a callback has asked
to quit or nothing is watched any more, and no more than these (`run_least_rounds`). How many
rounds a run is allowed does not matter, as long as it returns.
-/

namespace GadgetModes.MainLoop

open GadgetModes.Log

variable {κ α : Type} {act : Callbacks κ α}

/-! ## Rounds one after the other -/

def round (act : Callbacks κ α) (x : MainLoop κ × Host α) : MainLoop κ × Host α :=
  ((iterate act false x.1 x.2).loop, (iterate act false x.1 x.2).host)

def Returns (act : Callbacks κ α) (x : MainLoop κ × Host α) : Prop :=
  ∃ count, (iterate act false x.1 x.2).outcome = .returned count

/-- One of the callbacks that the next round calls asks to quit. -/
def Asks (act : Callbacks κ α) (x : MainLoop κ × Host α) : Prop :=
  ∃ visits h', Visits act visits x.2 h' ∧ visits.map Visit.told = x.1.ready x.2.pipes
    ∧ ∃ v ∈ visits, v.quits = true

def Over (x : MainLoop κ × Host α) : Prop :=
  x.1.quit = true ∨ x.1.watches = []

/-- How a run ends that is over: it reports if nothing asked for that. -/
def finish (x : MainLoop κ × Host α) : Turn κ α Unit :=
  ⟨.returned (), x.1, if x.1.quit then x.2 else x.2.report .noWatchesLeft⟩

/-! ## One round -/

theorem removeWatches_quit (l : MainLoop κ) (h : Host α) (ids : List Nat) :
    (l.removeWatches h ids).1.quit = l.quit := by
  induction ids generalizing l h with
  | nil => rfl
  | cons id ids ih =>
      rw [removeWatches_cons, ih, removeWatch]
      split <;> rfl

/-- After a round a loop is to quit if it was to before, or if a callback of the round asked. -/
theorem quit_round {x : MainLoop κ × Host α} (hreturns : Returns act x) :
    (round act x).1.quit = true ↔ x.1.quit = true ∨ Asks act x := by
  obtain ⟨count, hcount⟩ := hreturns
  rcases Nat.lt_or_ge x.2.fileLimit x.1.watches.length with hlimit | hlimit
  · rw [iterate_of_limit hlimit] at hcount
    cases hcount
  cases hserve : serve act (x.1.ready x.2.pipes) x.2 with
  | error h' =>
      rw [iterate_of_serve_error hlimit hserve] at hcount
      cases hcount
  | ok s =>
      have hasks : Asks act x ↔ s.quits = true := by
        constructor
        · rintro ⟨visits, h', hvisits, htold, hquits⟩
          have hserved := serve_of_visits hvisits
          rw [htold, hserve] at hserved
          obtain rfl := Except.ok.inj hserved
          exact List.any_eq_true.mpr hquits
        · intro hquits
          obtain ⟨visits, hvisits, htold, -, hasked⟩ := visits_of_serve hserve
          rw [hasked] at hquits
          exact ⟨visits, s.host, hvisits, htold, List.any_eq_true.mp hquits⟩
      rw [round, iterate_of_serve_ok hlimit hserve, hasks]
      show (MainLoop.removeWatches _ _ _).1.quit = true ↔ _
      rw [removeWatches_quit, Bool.or_eq_true]

/-! ## Several rounds -/

/-- The first rounds return, and none of them is made by a loop that is over. -/
def Lasts (act : Callbacks κ α) (n : Nat) (x : MainLoop κ × Host α) : Prop :=
  ∀ m < n, ¬Over ((round act)^[m] x) ∧ Returns act ((round act)^[m] x)

theorem lasts_succ {n : Nat} {x : MainLoop κ × Host α} :
    Lasts act (n + 1) x ↔ (¬Over x ∧ Returns act x) ∧ Lasts act n (round act x) := by
  constructor
  · intro h
    exact ⟨h 0 (Nat.succ_pos n), fun m hm => h (m + 1) (Nat.succ_lt_succ hm)⟩
  · rintro ⟨hfirst, hrest⟩ m hm
    cases m with
    | zero => exact hfirst
    | succ m => exact hrest m (Nat.lt_of_succ_lt_succ hm)

theorem rounds_of_over {limit : Nat} {x : MainLoop κ × Host α} (hover : Over x) :
    rounds act limit x.1 x.2 = finish x := by
  rcases hover with hquit | hwatches
  · rw [rounds_quit hquit, finish, if_pos hquit]
  · rw [rounds_unwatched hwatches, finish]

/-- A run that may make one more round makes it, unless it is over, and goes on if the round
returns. -/
theorem rounds_of_not_over {x : MainLoop κ × Host α} (hover : ¬Over x) (limit : Nat) :
    (Returns act x
        ∧ rounds act (limit + 1) x.1 x.2 = rounds act limit (round act x).1 (round act x).2)
      ∨ (¬Returns act x ∧ (rounds act (limit + 1) x.1 x.2).outcome ≠ .returned ()) := by
  rw [Over, not_or, Bool.not_eq_true] at hover
  rcases rounds_succ act x.2 hover.1 hover.2 with ⟨hreturns, hrest⟩ | ⟨hnot, hends⟩
  · exact .inl ⟨hreturns, hrest limit⟩
  · obtain ⟨-, -, hnotReturned, -⟩ := hends limit
    exact .inr ⟨fun ⟨count, hcount⟩ => hnot count hcount, hnotReturned⟩

theorem rounds_of_lasts {n limit : Nat} {x : MainLoop κ × Host α} (hlasts : Lasts act n x)
    (hover : Over ((round act)^[n] x)) (hlimit : n ≤ limit) :
    rounds act limit x.1 x.2 = finish ((round act)^[n] x) := by
  induction n generalizing limit x with
  | zero => exact rounds_of_over hover
  | succ n ih =>
      obtain ⟨⟨hgoesOn, hreturns⟩, hrest⟩ := lasts_succ.mp hlasts
      obtain ⟨limit, rfl⟩ : ∃ k, limit = k + 1 := ⟨limit - 1, by omega⟩
      rcases rounds_of_not_over hgoesOn limit with ⟨-, hround⟩ | ⟨hnot, -⟩
      · rw [hround]
        exact ih hrest hover (Nat.le_of_succ_le_succ hlimit)
      · exact absurd hreturns hnot

/-- A run that returns was over after some rounds, and not before. -/
theorem exists_lasts {limit : Nat} {x : MainLoop κ × Host α}
    (hreturns : (rounds act limit x.1 x.2).outcome = .returned ()) :
    ∃ n ≤ limit, Lasts act n x ∧ Over ((round act)^[n] x) := by
  induction limit generalizing x with
  | zero =>
      refine ⟨0, Nat.le_refl 0, fun m hm => absurd hm (Nat.not_lt_zero m), ?_⟩
      rw [rounds] at hreturns
      split at hreturns
      · next hquit => exact .inl hquit
      · split at hreturns
        · next hwatches => exact .inr (List.isEmpty_iff.mp hwatches)
        · cases hreturns
  | succ limit ih =>
      by_cases hover : Over x
      · exact ⟨0, Nat.zero_le _, fun m hm => absurd hm (Nat.not_lt_zero m), hover⟩
      rcases rounds_of_not_over hover limit with ⟨hround, heq⟩ | ⟨-, hnot⟩
      · rw [heq] at hreturns
        obtain ⟨n, hn, hlasts, hends⟩ := ih hreturns
        exact ⟨n + 1, Nat.succ_le_succ hn, lasts_succ.mpr ⟨⟨hover, hround⟩, hlasts⟩, hends⟩
      · exact absurd hreturns hnot

/-- As long as rounds return, a loop that was not to quit is to quit when one of their callbacks
asked for it. -/
theorem quit_iterate {n : Nat} {x : MainLoop κ × Host α} (hquit : x.1.quit = false)
    (hreturns : ∀ m < n, Returns act ((round act)^[m] x)) :
    ((round act)^[n] x).1.quit = true ↔ ∃ m < n, Asks act ((round act)^[m] x) := by
  induction n with
  | zero => simp [hquit]
  | succ n ih =>
      rw [Function.iterate_succ_apply', quit_round (hreturns n (Nat.lt_succ_self n)),
        ih fun m hm => hreturns m (Nat.lt_succ_of_lt hm)]
      constructor
      · rintro (⟨m, hm, hasks⟩ | hasks)
        · exact ⟨m, Nat.lt_succ_of_lt hm, hasks⟩
        · exact ⟨n, Nat.lt_succ_self n, hasks⟩
      · rintro ⟨m, hm, hasks⟩
        rcases Nat.lt_succ_iff_lt_or_eq.mp hm with hm | rfl
        · exact .inl ⟨m, hm, hasks⟩
        · exact .inr hasks

/-! ## A run -/

/-- A loop and its host after a number of rounds, earlier requests to quit being forgotten. -/
def afterRounds (act : Callbacks κ α) (l : MainLoop κ) (h : Host α) (n : Nat) :
    MainLoop κ × Host α :=
  (round act)^[n] ({ l with quit := false }, h)

/-- In one of the first rounds a callback asks to quit. -/
def AskedWithin (act : Callbacks κ α) (l : MainLoop κ) (h : Host α) (n : Nat) : Prop :=
  ∃ m < n, Asks act (afterRounds act l h m)

/-- A run that returns makes whole rounds, of which all return, and leaves loop and host as these
do. It makes the least number of rounds after which one of its callbacks has asked to quit or no
watch is left, whatever was asked for before it. The loop is to quit afterwards if a callback of
the run asked for that, and if none did the run warns, after all that was logged before, that no
watches are left. Any run that may make as many rounds is the same.

Callbacks may write down with what they were called, so that hosts that are the same stand for
the same calls. Nothing happens between the rounds here: a run that falls asleep does not return,
and what wakes it from outside belongs to the moves of sessions and of the daemon. As everywhere,
a write end is taken to have room for more. -/
theorem run_least_rounds (act : Callbacks κ α) {limit : Nat} {l : MainLoop κ} {h : Host α}
    (hreturns : (run act limit l h).outcome = .returned ()) :
    ∃ n, IsLeast {m | AskedWithin act l h m ∨ (afterRounds act l h m).1.watches = []} n
      ∧ (∀ m < n, Returns act (afterRounds act l h m))
      ∧ (run act limit l h).loop = (afterRounds act l h n).1
      ∧ ((run act limit l h).loop.quit = true ↔ AskedWithin act l h n)
      ∧ (AskedWithin act l h n → (run act limit l h).host = (afterRounds act l h n).2)
      ∧ (¬AskedWithin act l h n → ∃ event,
          (run act limit l h).host =
              { (afterRounds act l h n).2 with log := (afterRounds act l h n).2.log ++ [event] }
            ∧ event = .noWatchesLeft
            ∧ event.level = .warn
            ∧ event.message = "Main loop has no watches left, stopping"
            ∧ event.fields = [])
      ∧ (∀ more, n ≤ more → run act more l h = run act limit l h)
      ∧ ∀ quit, run act limit { l with quit } h = run act limit l h := by
  obtain ⟨n, hn, hlasts, hover⟩ :=
    exists_lasts (x := (({ l with quit := false } : MainLoop κ), h)) hreturns
  have hrun : ∀ more, n ≤ more → run act more l h = finish (afterRounds act l h n) :=
    fun more hmore => rounds_of_lasts hlasts hover hmore
  have hquit : ∀ m ≤ n, (afterRounds act l h m).1.quit = true ↔ AskedWithin act l h m :=
    fun m hm => quit_iterate rfl fun k hk => (hlasts k (Nat.lt_of_lt_of_le hk hm)).2
  have hend : AskedWithin act l h n ∨ (afterRounds act l h n).1.watches = [] :=
    hover.imp_left (hquit n (Nat.le_refl n)).mp
  refine ⟨n, ⟨hend, fun m hm => ?_⟩, fun m hm => (hlasts m hm).2, ?_, ?_, ?_, ?_, ?_, ?_⟩
  · by_contra hlt
    have hmn : m < n := Nat.lt_of_not_le hlt
    exact (hlasts m hmn).1 (hm.imp_left (hquit m (Nat.le_of_lt hmn)).mpr)
  · rw [hrun limit hn, finish]
  · rw [hrun limit hn, finish, hquit n (Nat.le_refl n)]
  · intro hasked
    rw [hrun limit hn, finish, if_pos ((hquit n (Nat.le_refl n)).mpr hasked)]
  · intro hasked
    rw [hrun limit hn, finish, if_neg fun h => hasked ((hquit n (Nat.le_refl n)).mp h)]
    exact ⟨_, rfl, rfl, rfl, rfl, rfl⟩
  · intro more hmore
    rw [hrun more hmore, hrun limit hn]
  · intro quit
    rfl

section Example

/-- A loop that was asked to quit. The callback of its first watch asks for that at its second
call, and its second watch goes at the first. -/
def askedBefore : MainLoop Script where
  watches :=
    [⟨1, ⟨0, .read⟩, { readable := true }, { number := 0, quitAfter := some 2 }⟩,
      ⟨2, ⟨1, .read⟩, { readable := true }, { number := 1, removeAfter := some 1 }⟩]
  nextId := 3
  quit := true

def bothFilled : Host (List Call) where
  pipes := ⟨[{ buffered := [7] }, { buffered := [8] }]⟩
  data := []

/-- The run makes two rounds with three calls. -/
theorem run_least_rounds_askedBefore :
    (run Script.act 5 askedBefore bothFilled).outcome = .returned ()
      ∧ ∃ n, IsLeast {m | AskedWithin Script.act askedBefore bothFilled m
            ∨ (afterRounds Script.act askedBefore bothFilled m).1.watches = []} n
        ∧ AskedWithin Script.act askedBefore bothFilled n
        ∧ (afterRounds Script.act askedBefore bothFilled n).1.watches.map (·.id) = [1]
        ∧ (afterRounds Script.act askedBefore bothFilled n).2.data.map (·.number) =
            [0, 1, 0] := by
  have hreturns : (run Script.act 5 askedBefore bothFilled).outcome = .returned () := by
    decide +kernel
  obtain ⟨n, hleast, -, hloop, hquit, hhost, -⟩ := run_least_rounds Script.act hreturns
  have hasked : AskedWithin Script.act askedBefore bothFilled n := hquit.mp (by decide +kernel)
  refine ⟨hreturns, n, hleast, hasked, ?_, ?_⟩
  · rw [← hloop]
    decide +kernel
  · rw [← hhost hasked]
    decide +kernel

end Example

end GadgetModes.MainLoop
