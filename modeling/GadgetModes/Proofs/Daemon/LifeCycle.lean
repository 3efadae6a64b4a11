import GadgetModes.Proofs.Catalog.Contents
import GadgetModes.Proofs.Config.Settings
import GadgetModes.Proofs.Daemon.AtWork

/-!
# The life of the daemon

A daemon that was started is at work until its main loop returns or a signal kills it.
`Phase` says how far it has come, with the signals that were delivered and the catalogs that
were loaded; it is kept along by each move (`Phase.move`). What this means for the whole life
of a daemon is told by `life_cycle`.
-/

namespace GadgetModes.Daemon

open GadgetModes.Log GadgetModes.Log.Logged GadgetModes.MainLoop GadgetModes.Relay

/-! ## Phases -/

/-- What a history has loaded: nothing at first, then what was loaded at the start and for
each hangup that was handed over. -/
structure Loaded (first : Catalog) (reloaded more : List Catalog) (d : Daemon) : Prop where
  catalogs : d.catalogs = {} :: first :: reloaded ++ more
  count : reloaded.length = d.handled.count .hangup

theorem Loaded.active {first : Catalog} {reloaded : List Catalog} {d : Daemon}
    (h : Loaded first reloaded [] d) :
    some d.host.data.store.active = (first :: reloaded).getLast? := by
  have hcatalogs := congrArg List.getLast? h.catalogs
  rw [Daemon.catalogs, List.getLast?_concat, List.append_nil, List.getLast?_cons_cons] at hcatalogs
  exact hcatalogs

theorem Loaded.of_eq {first : Catalog} {reloaded more : List Catalog} {d d' : Daemon}
    (h : Loaded first reloaded more d) (hhandled : d'.handled = d.handled)
    (hcatalogs : d'.catalogs = d.catalogs) : Loaded first reloaded more d' where
  catalogs := by rw [hcatalogs, h.catalogs]
  count := by rw [hhandled, h.count]

/-- How far a daemon has come: it is at work, its loop returned, or a signal killed it. -/
inductive Phase (scanner : Scanner) (diagnostic : Bool) (first : Catalog) (given : List Signal)
    (reloaded : List Catalog) (d : Daemon) : Prop
  | working {pending : List Signal} (work : AtWork scanner diagnostic given pending d)
      (loaded : Loaded first reloaded [] d)
  | returned (exit : d.exit = some (.code 0)) (conserved : d.handled ++ d.pending = given)
      (asked : ∃ t ∈ d.handled, t ∈ terminating)
      (calm : ∀ t ∈ d.handled.dropLast, t ∉ terminating) (bounded : endings given ≤ 1)
      (loaded : Loaded first reloaded [{}] d)
  | killed (exit : d.exit = some (.signal .abort)) (handled : d.handled <+: given)
      (calm : ∀ t ∈ d.handled.dropLast, t ∉ terminating) (exceeded : 1 < endings given)
      (loaded : Loaded first reloaded [] d)

namespace Phase

variable {scanner : Scanner} {diagnostic : Bool} {first : Catalog} {given : List Signal}
  {reloaded : List Catalog} {d : Daemon} {m : Move}

/-- After its end a daemon does nothing any more. -/
theorem move_of_ended (d : Daemon) (hd : d.isAlive = false) (m : Move) :
    (d.move m).exit = d.exit ∧ (d.move m).handled = d.handled
      ∧ (d.move m).pending = d.pending ∧ (d.move m).catalogs = d.catalogs
      ∧ (d.move m).host.data.files = m.filesAfter d.host.data.files := by
  cases m with
  | deliver t => rw [move, Daemon.deliver, hd]; exact ⟨rfl, rfl, rfl, rfl, rfl⟩
  | round => rw [move, round, hd]; exact ⟨rfl, rfl, rfl, rfl, rfl⟩
  | look => rw [move, advance_of_not_isAlive hd]; exact ⟨rfl, rfl, rfl, rfl, rfl⟩
  | wake => rw [move, hd]; exact ⟨rfl, rfl, rfl, rfl, rfl⟩
  | changeFiles change => exact ⟨rfl, rfl, rfl, rfl, rfl⟩

abbrev After (scanner : Scanner) (diagnostic : Bool) (first : Catalog) (given : List Signal)
    (reloaded : List Catalog) (d : Daemon) (m : Move) : Prop :=
  Phase scanner diagnostic first (given ++ d.delivers m)
    (reloaded ++ d.reloadsAt (loads scanner diagnostic) m) (d.move m)

/-- A move that hands nothing over and delivers nothing. -/
theorem after_of_handled (hhandled : (d.move m).handled = d.handled)
    (hdelivers : d.delivers m = [])
    (h : Phase scanner diagnostic first given reloaded (d.move m)) :
    After scanner diagnostic first given reloaded d m := by
  rw [After, reloadsAt_of_handled hhandled, hdelivers, List.append_nil, List.append_nil]
  exact h

theorem ended (hd : d.isAlive = false)
    (h : Phase scanner diagnostic first given reloaded d) :
    After scanner diagnostic first given reloaded d m := by
  obtain ⟨hexit, hhandled, hpending, hcatalogs, -⟩ := move_of_ended d hd m
  refine after_of_handled hhandled (by rw [delivers, hd]; rfl) ?_
  cases h with
  | working work loaded => rw [work.isAlive] at hd; cases hd
  | returned exit conserved asked calm bounded loaded =>
      exact .returned (hexit.trans exit) (by rw [hhandled, hpending, conserved])
        (by rwa [hhandled]) (by rwa [hhandled]) bounded (loaded.of_eq hhandled hcatalogs)
  | killed exit handled calm exceeded loaded =>
      exact .killed (hexit.trans exit) (by rwa [hhandled]) (by rwa [hhandled]) exceeded
        (loaded.of_eq hhandled hcatalogs)

section Working

variable {pending left : List Signal} {t : Signal}

theorem deliver (work : AtWork scanner diagnostic given pending d)
    (loaded : Loaded first reloaded [] d) (ht : t ∈ trapped) :
    After scanner diagnostic first given reloaded d (.deliver t) := by
  have hdelivers : d.delivers (.deliver t) = [t] := by rw [delivers, work.isAlive]; rfl
  obtain ⟨hhandled, hdata, hnext⟩ := work.deliver ht
  have hhandled : (d.move (.deliver t)).handled = d.handled := hhandled
  have hcatalogs : (d.move (.deliver t)).catalogs = d.catalogs :=
    congrArg (fun data => data.store.retired ++ [data.store.active]) hdata
  rw [After, reloadsAt_of_handled hhandled, hdelivers, List.append_nil]
  rcases hnext with ⟨hterminating, hone, hexit⟩ | ⟨-, hwork⟩
  · refine .killed hexit ?_ (by rw [hhandled]; exact work.calm) ?_
      (loaded.of_eq hhandled hcatalogs)
    · rw [hhandled, ← work.conserved, List.append_assoc]
      exact List.prefix_append _ _
    · rw [endings_append_singleton, hone, if_pos hterminating]
      decide
  · exact .working hwork (loaded.of_eq hhandled hcatalogs)

theorem round_oldest (work : AtWork scanner diagnostic given (t :: left) d)
    (loaded : Loaded first reloaded [] d) (hquit : d.loop.quit = false) :
    After scanner diagnostic first given reloaded d .round := by
  obtain ⟨hwork, hhandled, hdata⟩ := work.round_oldest hquit
  have hdelivers : d.delivers .round = [] := by rw [delivers, work.isAlive]; rfl
  rw [After, hdelivers, List.append_nil]
  refine .working hwork ⟨?_, ?_⟩
  · show d.round.host.data.store.retired ++ [d.round.host.data.store.active] = _
    have hcatalogs := loaded.catalogs
    rw [List.append_nil, Daemon.catalogs] at hcatalogs
    rw [hdata, handle_value, reloadsAt, move, hhandled, work.scanner, work.diagnostic]
    by_cases ht : t = .hangup
    · simp only [ht, if_true, Store.replace, hcatalogs]
      simp
    · simp [ht, hcatalogs]
  · show _ = d.round.handled.count _
    rw [hhandled, List.count_append, ← loaded.count, reloadsAt, move, hhandled]
    by_cases ht : t = .hangup
    · simp [ht]
    · simp [ht]

/-- What a move makes of a daemon at work. -/
theorem working_move (work : AtWork scanner diagnostic given pending d)
    (loaded : Loaded first reloaded [] d) (hm : ∀ t ∈ m.delivers, t ∈ trapped) :
    After scanner diagnostic first given reloaded d m := by
  have hsame : d.move m = d → d.delivers m = [] →
      After scanner diagnostic first given reloaded d m := fun hmove hdelivers =>
    after_of_handled (by rw [hmove]) hdelivers (by rw [hmove]; exact .working work loaded)
  have hnone : m.delivers = [] → d.delivers m = [] := by
    intro hdelivers
    rw [delivers, hdelivers, ite_self]
  cases m with
  | deliver t => exact deliver work loaded (hm t (List.mem_singleton_self t))
  | round =>
      cases hquit : d.loop.quit with
      | true => exact hsame (round_of_quit hquit) (hnone rfl)
      | false =>
          cases pending with
          | nil => exact hsame work.round_idle (hnone rfl)
          | cons t left => exact round_oldest work loaded hquit
  | look =>
      cases hquit : d.loop.quit with
      | false => exact hsame (by rw [work.look, hquit]; rfl) (hnone rfl)
      | true =>
          -- The signals behind the one that asked to end stay in the pipe.
          have hmove : d.move .look = d.shutDown := by rw [work.look, hquit]; rfl
          have hhandled : d.shutDown.handled = d.handled := by
            simp [handled, shutDown, Event.relayed?]
          have hasked : ∃ t ∈ d.handled, t ∈ terminating := by
            simpa [work.quit] using hquit
          refine after_of_handled (by rw [hmove, hhandled]) (hnone rfl) ?_
          rw [hmove]
          refine .returned rfl ?_ (by rwa [hhandled]) (by rw [hhandled]; exact work.calm)
            work.endings_le ⟨?_, by rw [hhandled]; exact loaded.count⟩
          · rw [hhandled, ← work.conserved, ← work.pending_eq]
            rfl
          · rw [← List.append_nil (_ :: _ :: _), ← loaded.catalogs]
            rfl
  | wake =>
      obtain ⟨hwork, hhandled, hdata⟩ := work.wake
      have hcatalogs : (d.move .wake).catalogs = d.catalogs :=
        congrArg (fun data => data.store.retired ++ [data.store.active]) hdata
      exact after_of_handled hhandled (hnone rfl)
        (.working hwork (loaded.of_eq hhandled hcatalogs))
  | changeFiles change =>
      exact after_of_handled rfl (hnone rfl)
        (.working (work.changeFiles change) (loaded.of_eq rfl rfl))

end Working

theorem move (h : Phase scanner diagnostic first given reloaded d)
    (hm : ∀ t ∈ m.delivers, t ∈ trapped) :
    After scanner diagnostic first given reloaded d m := by
  cases hd : d.isAlive with
  | false => exact ended hd h
  | true =>
      cases h with
      | working work loaded => exact working_move work loaded hm
      | returned exit => rw [isAlive, exit] at hd; cases hd
      | killed exit => rw [isAlive, exit] at hd; cases hd

/-- Whatever else happens to the files is not the daemon's doing. -/
theorem files_move (h : Phase scanner diagnostic first given reloaded d)
    (hm : ∀ t ∈ m.delivers, t ∈ trapped) :
    (d.move m).host.data.files = m.filesAfter d.host.data.files := by
  cases hd : d.isAlive with
  | false => exact (move_of_ended d hd m).2.2.2.2
  | true =>
      cases h with
      | returned exit => rw [isAlive, exit] at hd; cases hd
      | killed exit => rw [isAlive, exit] at hd; cases hd
      | @working pending work loaded =>
          cases m with
          | deliver t =>
              exact congrArg Data.files (work.deliver (hm t (List.mem_singleton_self t))).2.1
          | look =>
              rw [work.look]
              split <;> rfl
          | wake => exact congrArg Data.files work.wake.2.2
          | changeFiles change => rfl
          | round =>
              show d.round.host.data.files = d.host.data.files
              cases hquit : d.loop.quit with
              | true => rw [round_of_quit hquit]
              | false =>
                  cases pending with
                  | nil => rw [work.round_idle]
                  | cons t left =>
                      rw [(work.round_oldest hquit).2.2, handle_value]
                      split <;> rfl

theorem killed_iff (h : Phase scanner diagnostic first given reloaded d) :
    d.exit = some (.signal .abort) ↔ 1 < endings given := by
  cases h with
  | working work loaded =>
      have hle := work.endings_le
      simp [work.exit]
      omega
  | returned exit conserved asked calm bounded loaded =>
      simp [exit]
      omega
  | killed exit handled calm exceeded loaded => simp [exit, exceeded]

/-- What a history makes of a daemon. -/
theorem play (h : Phase scanner diagnostic first given reloaded d) {moves : List Move}
    (hmoves : ∀ m ∈ moves, ∀ t ∈ m.delivers, t ∈ trapped) :
    Phase scanner diagnostic first (given ++ d.delivered moves)
      (reloaded ++ d.reloads (loads scanner diagnostic) moves) (d.play moves)
    ∧ (d.play moves).host.data.files = moves.foldl Move.filesAfter d.host.data.files := by
  induction moves generalizing d given reloaded with
  | nil =>
      rw [delivered, reloads, List.append_nil, List.append_nil]
      exact ⟨h, rfl⟩
  | cons m moves ih =>
      have hm := hmoves m (List.mem_cons_self ..)
      obtain ⟨hnext, hfiles⟩ := ih (h.move hm) fun m hm => hmoves m (List.mem_cons_of_mem _ hm)
      rw [List.append_assoc, List.append_assoc] at hnext
      rw [h.files_move hm] at hfiles
      exact ⟨hnext, hfiles⟩

end Phase

/-! ## The start -/

/-- Setting up the relay of a process that was just started succeeds. -/
theorem setUp_fresh {κ α : Type} (callback : κ) (log : List Event) (data : α) :
    (Relay.setUp callback {} ({ log, data } : Host α)).outcome = .returned 1 := rfl

theorem atWork_setUp (filter : Log.Filter) {log : List Event} (data : Data)
    (hlog : log.filterMap Event.relayed? = []) :
    AtWork data.store.scanner data.diagnostic [] []
      { loop := (Relay.setUp () {} ({ log, data } : Host Data)).loop
        host := (Relay.setUp () {} ({ log, data } : Host Data)).host
        filter } := by
  have hlinked := (established_of_returned (setUp_fresh () log data)).linked rfl rfl
  have hreports : (Relay.setUp () {} ({ log, data } : Host Data)).host.log =
      log ++ [.relayStageChanged .transportReady] ++ [.watchAdded 1 conditions] ++
        [.relayStageChanged .signalsTrapped] ++ [.relayStageChanged .running] ++
        [.relayRunning] := rfl
  have hhandled : (Relay.setUp () {} ({ log, data } : Host Data)).host.log.filterMap
      Event.relayed? = [] := by
    simp [hreports, hlog, Event.relayed?]
  exact
    { exit := rfl
      linked := ⟨_, _, hlinked⟩
      trapped := by simp
      conserved := by rw [handled, hhandled]; rfl
      quit := by rw [handled, hhandled]; rfl
      calm := by rw [handled, hhandled]; simp
      scanner := rfl
      diagnostic := rfl }

/-- The scanner that the command line and the configuration ask for. -/
def scannerOf (l : CommandLine) (c : Config) : Scanner :=
  ⟨⟨l.modeDir.getD c.modes.dir, l.diagDir.getD c.modes.diagDir⟩, c.features.options⟩

/-- Whether the command line or the configuration asks for diagnostic modes. -/
def diagnosticOf (l : CommandLine) (c : Config) : Bool :=
  l.diagnostic || c.modes.diagnostic

/-- A daemon that is about to run has loaded its modes, and nothing was delivered yet. -/
theorem phase_prepare (launch : Launch) (l : CommandLine) (c : Config) (path : String) :
    Phase (scannerOf l c) (diagnosticOf l c)
        (loads (scannerOf l c) (diagnosticOf l c) launch.files) [] []
        (prepare launch l c path)
      ∧ (prepare launch l c path).host.data.files = launch.files := by
  rw [prepare]
  simp only [setUp_fresh]
  suffices work : AtWork (scannerOf l c) (diagnosticOf l c) [] [] _ from
    ⟨.working work ⟨rfl, by rw [work.handled_eq_nil]; rfl⟩, rfl⟩
  refine atWork_setUp _ ⟨(Store.load (scannerOf l c) launch.files (diagnosticOf l c)).value,
    launch.files, diagnosticOf l c⟩ ?_
  exact (quiet_report rfl).bind ((quiet_report rfl).bind ((quiet_report rfl).bind
    ((Store.quiet_reload ..).bind ((quiet_reportCatalog _).bind (quiet_pure _)))))

/-- What is accepted is prepared. -/
theorem of_start {launch : Launch} {d : Daemon} (h : start launch = .ok d) :
    ∃ l c, CommandLine.read launch.arguments = .ok l
      ∧ (Config.load launch.files (l.config.getD Config.defaultPath)).value = .ok c
      ∧ d = prepare launch l c (l.config.getD Config.defaultPath) := by
  rw [start] at h
  split at h
  · cases h
  · cases h
  · cases h
  · next l hread =>
    simp only at h
    split at h
    · cases h
    · next c hload => exact ⟨l, c, hread, hload, (Except.ok.inj h).symm⟩

/-! ## The whole life -/

/-- What a daemon is like after a history, as seen from outside: with the signals that were
delivered until then, and a way to load modes from the files. -/
structure Lived (load : FileSystem → Catalog) (d₀ : Daemon) (moves : List Move) (d : Daemon) :
    Prop where
  /-- It is at work, or it returned with success, or it was aborted. -/
  exit : d.exit = none ∨ d.exit = some (.code 0) ∨ d.exit = some (.signal .abort)
  files : d.host.data.files = moves.foldl Move.filesAfter d₀.host.data.files
  handled : d.handled <+: d₀.delivered moves
  conserved : d.exit ≠ some (.signal .abort) → d.handled ++ d.pending = d₀.delivered moves
  /-- As long as no signal was handed over that asks to end, the loop goes on. -/
  goesOn : (∀ t ∈ d.handled, t ∉ terminating) → endings (d₀.delivered moves) ≤ 1 →
    d.exit = none ∧ d.loop.quit = false
  round : d.exit = none → (∀ t ∈ d.handled, t ∉ terminating) →
    (d.move .round).handled = d.handled ++ d.pending.take 1
  /-- What is loaded at the start and for each hangup that is handed over becomes active in
  turn, and at the end nothing is. -/
  catalogs : d.catalogs = {} :: load d₀.host.data.files :: d₀.reloads load moves ++
    if d.exit = some (.code 0) then [({} : Catalog)] else []
  reloads : (d₀.reloads load moves).length = d.handled.count .hangup
  active : d.exit ≠ some (.code 0) →
    some d.host.data.store.active =
      (load d₀.host.data.files :: d₀.reloads load moves).getLast?
  /-- Nothing is handed over after a signal that asks to end, and then the loop returns. -/
  last : ∀ t ∈ d.handled.dropLast, t ∉ terminating
  returns : d.exit = none → (∃ t ∈ d.handled, t ∈ terminating) →
    d.move .round = d ∧ (d.move .look).exit = some (.code 0)
  returned : d.exit = some (.code 0) →
    (∃ t ∈ d.handled, t ∈ terminating) ∧ d.host.data.store.active = {}
  /-- It was aborted if a second signal that asks to end was delivered. -/
  aborted : d.exit = some (.signal .abort) ↔ 1 < endings (d₀.delivered moves)
  aborts : ∀ m : Move, (∀ t ∈ m.delivers, t ∈ trapped) → d.exit = none →
    ((d.move m).exit = some (.signal .abort) ↔
      ∃ t, m = .deliver t ∧ t ∈ terminating ∧ ∃ u ∈ d₀.delivered moves, u ∈ terminating)
  run : ∀ limit, d.advance limit = d.play (List.replicate limit .round ++ [.look])

section Lived

variable {scanner : Scanner} {diagnostic : Bool} {first : Catalog} {d₀ d : Daemon}
  {moves : List Move}

/-- What can abort a daemon that is alive. -/
theorem Phase.aborts {given : List Signal} {reloaded : List Catalog} {m : Move}
    (h : Phase scanner diagnostic first given reloaded d)
    (hm : ∀ t ∈ m.delivers, t ∈ trapped) (hexit : d.exit = none) :
    (d.move m).exit = some (.signal .abort) ↔
      ∃ t, m = .deliver t ∧ t ∈ terminating ∧ ∃ u ∈ given, u ∈ terminating := by
  have hle : endings given ≤ 1 := by
    have hnot := h.killed_iff
    simp only [hexit, reduceCtorEq, false_iff, Nat.not_lt] at hnot
    exact hnot
  have hdelivers : d.delivers m = m.delivers := by rw [delivers, isAlive, hexit]; rfl
  rw [(h.move hm).killed_iff, hdelivers]
  cases m with
  | deliver t =>
      rw [Move.delivers, endings_append_singleton, ← endings_eq_one_iff hle]
      by_cases ht : t ∈ terminating
      · simp [ht]
        omega
      · simp [ht]
        omega
  | _ => simp [Move.delivers, hle]

theorem Phase.lived (hfiles : d.host.data.files = moves.foldl Move.filesAfter d₀.host.data.files)
    (h : Phase scanner diagnostic (loads scanner diagnostic d₀.host.data.files)
      (d₀.delivered moves) (d₀.reloads (loads scanner diagnostic) moves) d) :
    Lived (loads scanner diagnostic) d₀ moves d := by
  have haborted := h.killed_iff
  have haborts := fun (m : Move) (hm : ∀ t ∈ m.delivers, t ∈ trapped) => h.aborts hm
  cases h with
  | @working pending work loaded =>
      exact
        { exit := .inl work.exit
          files := hfiles
          handled := by rw [← work.conserved]; exact List.prefix_append _ _
          conserved := fun _ => by rw [work.pending_eq, work.conserved]
          goesOn := fun hnone _ => ⟨work.exit, by simpa [work.quit] using hnone⟩
          round := by
            intro _ hnone
            have hquit : d.loop.quit = false := by simpa [work.quit] using hnone
            rw [work.pending_eq]
            show d.round.handled = _
            cases pending with
            | nil => rw [work.round_idle]; simp
            | cons t left => exact (work.round_oldest hquit).2.1
          catalogs := by rw [loaded.catalogs, work.exit]; rfl
          reloads := loaded.count
          active := fun _ => loaded.active
          last := work.calm
          returns := by
            intro _ hasked
            have hquit : d.loop.quit = true := by simpa [work.quit] using hasked
            rw [work.look, hquit]
            exact ⟨round_of_quit hquit, rfl⟩
          returned := fun hexit => by rw [work.exit] at hexit; cases hexit
          aborted := haborted
          aborts := haborts
          run := advance_eq_play d }
  | returned exit conserved asked calm bounded loaded =>
      have hnot : d.exit ≠ none := by simp [exit]
      exact
        { exit := .inr (.inl exit)
          files := hfiles
          handled := by rw [← conserved]; exact List.prefix_append _ _
          conserved := fun _ => conserved
          goesOn := by
            intro hnone _
            obtain ⟨t, ht, hterminating⟩ := asked
            exact absurd hterminating (hnone t ht)
          round := fun hexit => absurd hexit hnot
          catalogs := by rw [loaded.catalogs, exit]; rfl
          reloads := loaded.count
          active := fun hne => absurd exit hne
          last := calm
          returns := fun hexit => absurd hexit hnot
          returned := by
            refine fun _ => ⟨asked, ?_⟩
            have hcatalogs := loaded.catalogs
            rw [catalogs] at hcatalogs
            exact (List.append_inj' hcatalogs rfl).2 |> List.singleton_inj.mp
          aborted := haborted
          aborts := haborts
          run := advance_eq_play d }
  | killed exit handled calm exceeded loaded =>
      have hnot : d.exit ≠ none := by simp [exit]
      exact
        { exit := .inr (.inr exit)
          files := hfiles
          handled := handled
          conserved := fun hne => absurd exit hne
          goesOn := fun _ hle => absurd exceeded (Nat.not_lt.mpr hle)
          round := fun hexit => absurd hexit hnot
          catalogs := by rw [loaded.catalogs, exit]; rfl
          reloads := loaded.count
          active := fun _ => loaded.active
          last := calm
          returns := fun hexit => absurd hexit hnot
          returned := fun hexit => by rw [exit] at hexit; cases hexit
          aborted := haborted
          aborts := haborts
          run := advance_eq_play d }

end Lived

/-- A daemon that was accepted lives as it should, with the modes of the directory that was
chosen at the start, whatever trapped signals are delivered and however the files change. The
choice is the command line's, then that of the document in the configuration file, and the
defaults' where neither says anything. -/
theorem life_cycle {launch : Launch} {d₀ : Daemon} (hstart : start launch = .ok d₀) :
    ∃ l c, CommandLine.read launch.arguments = .ok l
      ∧ (Config.load launch.files (l.config.getD Config.defaultPath)).value = .ok c
      ∧ Config.FoundAt launch.files (l.config.getD Config.defaultPath) c
      ∧ d₀.host.data.files = launch.files
      ∧ ∀ moves : List Move, (∀ m ∈ moves, ∀ t ∈ m.delivers, t ∈ trapped) →
          Lived (loads (scannerOf l c) (diagnosticOf l c)) d₀ moves (d₀.play moves) := by
  obtain ⟨l, c, hread, hload, rfl⟩ := of_start hstart
  obtain ⟨hphase, hfiles⟩ := phase_prepare launch l c (l.config.getD Config.defaultPath)
  refine ⟨l, c, hread, hload, Config.foundAt_of_load hload, hfiles, fun moves hmoves => ?_⟩
  rw [← hfiles] at hphase
  obtain ⟨hphase, hfilesAfter⟩ := hphase.play hmoves
  exact hphase.lived hfilesAfter

/-- A configuration that puts the diagnostic modes into a directory. -/
def diagnosticDocument : String :=
  "[modes]\ndiag_dir = 'a'\n"

/-- A daemon for the diagnostic modes in the directory `a`, of which there is one. -/
def diagnosticLaunch : Launch where
  arguments := ["--config", "c", "--diag"]
  files := Catalog.besideDirectory.put ["c"] (.file (Text.utf8 diagnosticDocument))

/-- The document decides what is found there. -/
theorem eq_of_foundAt {c : Config} (h : Config.FoundAt diagnosticLaunch.files "c" c) :
    c = { modes := { diagDir := "a" } } := by
  obtain ⟨t, hdocument, htables, hvalue⟩ :
      ∃ t ∈ Toml.Document.read diagnosticDocument, Config.Tabled t
        ∧ Config.overlaid t = { modes := { diagDir := "a" } } := by
    decide +kernel
  obtain ⟨sts, hdoc, -⟩ := Toml.Document.read_eq_some_iff.mp hdocument
  obtain ⟨-, -, hoverlaid⟩ := h.written ["c"] diagnosticDocument sts t (by decide +kernel)
    (by decide +kernel) hdoc htables
  exact hoverlaid.trans hvalue

/-- The mode is removed before a hangup is handed over, and another hangup arrives when the
daemon was already asked to end. -/
def hangupTooLate : List Move :=
  [.deliver .hangup, .changeFiles (·.remove "a/m.ini"), .round, .deliver .terminate,
    .deliver .hangup, .round, .round, .look]

/-- The directory is that of the document. The first hangup makes the modes be loaded anew, the
second is left in the pipe. -/
theorem life_cycle_hangupTooLate :
    ∃ d₀ l c, start diagnosticLaunch = .ok d₀
      ∧ CommandLine.read diagnosticLaunch.arguments = .ok l
      ∧ (scannerOf l c).dirs = { diagDir := "a" } ∧ diagnosticOf l c = true
      ∧ (d₀.play hangupTooLate).exit = some (.code 0)
      ∧ (d₀.play hangupTooLate).handled = [.hangup, .terminate]
      ∧ (d₀.play hangupTooLate).pending = [.hangup]
      ∧ (d₀.play hangupTooLate).catalogs.map Catalog.names = [[], ["M"], [], []]
      ∧ (d₀.play hangupTooLate).host.data.store.active = {} := by
  have hseen : (start diagnosticLaunch).toOption.map (fun d =>
      (d.delivered hangupTooLate, (d.play hangupTooLate).exit, (d.play hangupTooLate).handled,
        (d.play hangupTooLate).catalogs.map Catalog.names)) =
      some ([.hangup, .terminate, .hangup], some (.code 0), [.hangup, .terminate],
        [[], ["M"], [], []]) := by
    decide +kernel
  obtain ⟨d₀, hd₀, hseen⟩ := Option.map_eq_some_iff.mp hseen
  simp only [Prod.mk.injEq] at hseen
  obtain ⟨hdelivered, hexit, hhandled, hnames⟩ := hseen
  have hstart : start diagnosticLaunch = .ok d₀ := by
    cases h : start diagnosticLaunch with
    | error refusal => rw [h] at hd₀; cases hd₀
    | ok d => rw [h] at hd₀; rw [Option.some.inj hd₀]
  obtain ⟨l, c, hread, -, hfound, -, hlife⟩ := life_cycle hstart
  obtain rfl : l = { config := some "c", diagnostic := true } := by
    have hline : CommandLine.read diagnosticLaunch.arguments =
        .ok { config := some "c", diagnostic := true } := by decide +kernel
    exact Except.ok.inj (hread.symm.trans hline)
  obtain rfl := eq_of_foundAt hfound
  have hlived := hlife hangupTooLate (by decide)
  have hconserved := hlived.conserved (by simp [hexit])
  rw [hdelivered, hhandled] at hconserved
  exact ⟨d₀, _, { modes := { diagDir := "a" } }, hstart, hread, rfl, rfl, hexit, hhandled,
    List.append_cancel_left hconserved, hnames, (hlived.returned hexit).2⟩

end GadgetModes.Daemon
