import GadgetModes.Proofs.Catalog.Contents

/-!
# What the log says of a scan

The log of a scan goes through the entries of the directory in their order and gives one account
of each (`Scanner.Account`): the entry is skipped, or it is read and then loaded or refused. The
accounts are put together along the entries (`Scanner.Accounts`), so that whatever holds of each of
them holds of the log: every entry is taken up once, every file among them is settled once, and
what is loaded are the records that the scan gives.
-/

namespace GadgetModes

open GadgetModes.Log GadgetModes.Mode

def FileSystem.LeadsToFile (fs : FileSystem) (path : String) : Prop :=
  ∃ place bytes, fs.resolve path = .ok place ∧ fs.node? place = some (.file bytes)

instance (fs : FileSystem) (path : String) : Decidable (fs.LeadsToFile path) :=
  decidable_of_iff (fs.isFile path = true) FileSystem.isFile_iff

namespace Scanner

/-- What a log shows of one event: its level, its message and its fields. -/
abbrev Shown := Level × String × List (String × Value)

/-! ## One entry -/

def reading (path : String) : Shown :=
  (.debug, "Reading mode file", [("path", .plain path)])

/-- What the log says of an entry with this path, and the record that the entry gives. -/
inductive Account (options : Mode.Options) (fs : FileSystem) (path : String) :
    List Shown → Option Record → Prop
  | skipped (hfile : ¬fs.LeadsToFile path) :
      Account options fs path [(.debug, "Skipping non-file entry", [("path", .plain path)])] none
  | loaded {r : Record} (hfile : fs.LeadsToFile path)
      (hrecord : Record.ofFile options fs path = .ok r) :
      Account options fs path
        [reading path, (.info, "Loaded mode",
          [("path", .plain path), ("mode", .quoted r.name), ("module", .quoted r.module)])]
        (some r)
  | unreadable {cause : Unreadable} (hfile : fs.LeadsToFile path)
      (hcause : Record.ofFile options fs path = .error (.unreadable cause)) :
      Account options fs path
        [reading path, (.warn, "Failed to read mode file: " ++ cause.reason,
          [("path", .plain path)])]
        none
  | rejected {content : String} {file : KeyFile} {before after : List Requirement}
      {q : Requirement} (hfile : fs.LeadsToFile path)
      (htext : Description.fileText fs path = .ok content)
      (hread : KeyFile.read content = .ok file) (hall : Requirement.all = before ++ q :: after)
      (hbefore : ∀ p ∈ before, p.Met (Description.fields options file))
      (hq : ¬q.Met (Description.fields options file)) :
      Account options fs path
        [reading path, (.trace, "Invariant violated", [("invariant", .quoted q.invariant.name)]),
          (.warn, "Rejected mode file: " ++ q.rejection.message,
            [("path", .plain path), ("field", .quoted q.key)])]
        none

theorem scanEntry_account (s : Scanner) (fs : FileSystem) (path : String) :
    Account s.options fs path ((s.scanEntry fs path).log.map Event.seen)
      (s.scanEntry fs path).value := by
  unfold scanEntry
  split
  · next hfile =>
    rw [FileSystem.isFile_iff] at hfile
    obtain ⟨events, hends, hload⟩ := Record.load_ends s.options fs path
    rw [hload]
    generalize hresult : Record.ofFile s.options fs path = result at hends ⊢
    cases hends with
    | unreadable htext => exact .unreadable hfile hresult
    | malformed htext hread => exact .unreadable hfile hresult
    | @unmet content file q htext hread hfirst =>
        obtain ⟨hq, before, after, hall, hbefore⟩ :=
          Requirement.exists_of_firstUnmet?_eq_some hfirst
        have haccount : Account s.options fs path _ none :=
          .rejected hfile htext hread hall hbefore hq
        rw [← q.field_rejection] at haccount
        exact haccount
    | loaded htext hread hrecord => exact .loaded hfile hresult
  · next hfile =>
    rw [FileSystem.isFile_iff] at hfile
    exact .skipped hfile

/-! ## All entries -/

/-- What the log says of some entries of a directory, one after the other, and the records that
they give. -/
inductive Accounts (options : Mode.Options) (fs : FileSystem) (dir : String) :
    List String → List Shown → List Record → Prop
  | nil : Accounts options fs dir [] [] []
  | cons {name : String} {names : List String} {account log : List Shown}
      {record? : Option Record} {records : List Record}
      (first : Account options fs (Path.join dir name) account record?)
      (rest : Accounts options fs dir names log records) :
      Accounts options fs dir (name :: names) (account ++ log) (record?.toList ++ records)

theorem scanEntries_accounts (s : Scanner) (fs : FileSystem) (dir : String)
    (names : List String) :
    Accounts s.options fs dir names ((s.scanEntries fs dir names).log.map Event.seen)
      (s.scanEntries fs dir names).value := by
  induction names with
  | nil => exact .nil
  | cons name names ih =>
      rw [scanEntries, Logged.value_bind, Logged.value_bind, Logged.value_pure, Logged.log_bind,
        Logged.log_bind, Logged.log_pure, List.append_nil, List.map_append]
      exact .cons (s.scanEntry_account fs (Path.join dir name)) ih

/-! ## Paths in the log -/

/-- The paths that the events of some levels name, in their order. -/
def pathsAt (levels : List Level) (log : List Shown) : List Value :=
  (log.filter (·.1 ∈ levels)).flatMap fun e => (e.2.2.filter (·.1 = "path")).map (·.2)

theorem pathsAt_append (levels : List Level) (log log' : List Shown) :
    pathsAt levels (log ++ log') = pathsAt levels log ++ pathsAt levels log' := by
  rw [pathsAt, List.filter_append, List.flatMap_append, pathsAt, pathsAt]

section

variable {options : Mode.Options} {fs : FileSystem} {dir path : String} {names : List String}
  {log : List Shown} {record? : Option Record} {records : List Record}

theorem Account.pathsAt_debug (h : Account options fs path log record?) :
    pathsAt [.debug] log = [.plain path] := by
  cases h <;> rfl

theorem Account.pathsAt_info (h : Account options fs path log record?) :
    pathsAt [.info] log = record?.toList.map fun r => .plain r.source := by
  cases h with
  | skipped hfile => rfl
  | loaded hfile hrecord =>
      rw [Option.toList_some, List.map_singleton, Record.source_of_ofFile hrecord]
      rfl
  | unreadable hfile hcause => rfl
  | rejected hfile htext hread hall hbefore hq => rfl

theorem Account.pathsAt_settled (h : Account options fs path log record?) :
    pathsAt [.info, .warn] log = if fs.LeadsToFile path then [.plain path] else [] := by
  cases h with
  | skipped hfile =>
      rw [if_neg hfile]
      rfl
  | loaded hfile hrecord =>
      rw [if_pos hfile]
      rfl
  | unreadable hfile hcause =>
      rw [if_pos hfile]
      rfl
  | rejected hfile htext hread hall hbefore hq =>
      rw [if_pos hfile]
      rfl

namespace Accounts

theorem pathsAt_debug (h : Accounts options fs dir names log records) :
    pathsAt [.debug] log = names.map fun name => .plain (Path.join dir name) := by
  induction h with
  | nil => rfl
  | cons first rest ih =>
      rw [pathsAt_append, first.pathsAt_debug, ih]
      rfl

theorem pathsAt_info (h : Accounts options fs dir names log records) :
    pathsAt [.info] log = records.map fun r => .plain r.source := by
  induction h with
  | nil => rfl
  | cons first rest ih => rw [pathsAt_append, first.pathsAt_info, ih, List.map_append]

theorem pathsAt_settled (h : Accounts options fs dir names log records) :
    pathsAt [.info, .warn] log =
      (names.filter fun name => fs.LeadsToFile (Path.join dir name)).map
        fun name => .plain (Path.join dir name) := by
  induction h with
  | nil => rfl
  | @cons name _ _ _ _ _ first rest ih =>
      rw [pathsAt_append, first.pathsAt_settled, ih, List.filter_cons]
      by_cases hfile : fs.LeadsToFile (Path.join dir name)
      · rw [if_pos hfile, if_pos (decide_eq_true hfile)]
        rfl
      · rw [if_neg hfile, if_neg (by simpa using hfile), List.nil_append]

end Accounts

/-! ## Whole scans -/

/-- The event at the end of a scan. -/
def scanned (dir : String) (count : Nat) : Shown :=
  (.info, "Scanned mode directory", [("dir", .plain dir), ("count", .number count)])

/-- It names a directory and no path. -/
theorem pathsAt_scanned (levels : List Level) (dir : String) (count : Nat) :
    pathsAt levels [scanned dir count] = [] := by
  by_cases hinfo : Level.info ∈ levels <;> simp [pathsAt, scanned, hinfo]

/-- A log that accounts for the entries of a directory, each with the events of one account, and
ends with the number of the records. In it every entry is taken up once and under a path of its
own, every file among them is settled once, and the files that are loaded are the sources of the
records; all in the order of the entries. -/
structure Accounted (options : Mode.Options) (fs : FileSystem) (dir : String)
    (names : List String) (log : List Shown) (records : List Record) : Prop where
  accounts : ∃ before, Accounts options fs dir names before records
    ∧ log = before ++ [scanned dir records.length]
  taken : pathsAt [.debug] log = names.map fun name => .plain (Path.join dir name)
  distinct : names.Nodup → (pathsAt [.debug] log).Nodup
  settled : pathsAt [.info, .warn] log =
    (names.filter fun name => fs.LeadsToFile (Path.join dir name)).map
      fun name => .plain (Path.join dir name)
  loaded : pathsAt [.info] log = records.map fun r => .plain r.source

theorem Accounts.accounted (h : Accounts options fs dir names log records) :
    Accounted options fs dir names (log ++ [scanned dir records.length]) records where
  accounts := ⟨log, h, rfl⟩
  taken := by rw [pathsAt_append, pathsAt_scanned, List.append_nil, h.pathsAt_debug]
  distinct := by
    intro hnames
    rw [pathsAt_append, pathsAt_scanned, List.append_nil, h.pathsAt_debug]
    refine List.pairwise_map.mpr (hnames.imp fun hne hsame => ?_)
    exact hne (Path.join_injective (Value.plain.inj hsame))
  settled := by rw [pathsAt_append, pathsAt_scanned, List.append_nil, h.pathsAt_settled]
  loaded := by rw [pathsAt_append, pathsAt_scanned, List.append_nil, h.pathsAt_info]

end

/-- No entry of a directory is dropped in silence: the log of a scan accounts for each of them, as
skipped, loaded or refused, and ends with the number of the records that were found. Of a directory
that cannot be opened it says just that, and there are no records. -/
theorem scanDir_accounted (s : Scanner) (fs : FileSystem) (dir : String) :
    (∀ names, fs.entries dir = .ok names →
        Accounted s.options fs dir names ((s.scanDir fs dir).log.map Event.seen)
          (s.scanDir fs dir).value)
      ∧ ∀ fault, fs.entries dir = .error fault →
        (s.scanDir fs dir).log.map Event.seen =
            [(.warn, "Cannot open mode directory: " ++ fault.message, [("dir", .plain dir)])]
          ∧ (s.scanDir fs dir).value = [] := by
  constructor
  · intro names hnames
    have haccounts := s.scanEntries_accounts fs dir names
    simp only [scanDir, hnames, Logged.value_bind, Logged.log_bind, Logged.value_pure,
      Logged.log_report, Logged.log_pure, List.append_nil, List.map_append]
    exact haccounts.accounted
  · intro fault hfault
    rw [scanDir, hfault]
    exact ⟨rfl, rfl⟩

/-- A directory with a directory, a mode file, a link to it, one without a module and one whose
bytes are no text in it. -/
def mixedEntries : FileSystem where
  nodes := [(["a"], .directory), (["a", "x"], .directory),
    (["a", "m.ini"], .file (Text.utf8 "[mode]\nname=M\nmodule=g\n")),
    (["a", "l.ini"], .link "m.ini"), (["a", "b.ini"], .file (Text.utf8 "[mode]\nname=M\n")),
    (["a", "t.ini"], .file [0xFF])]

/-- All five entries are taken up, each once, the four files are settled, and two of them are
loaded. Another directory is not there. -/
theorem scanDir_accounted_mixedEntries :
    mixedEntries.entries "a" = .ok ["x", "m.ini", "l.ini", "b.ini", "t.ini"]
      ∧ pathsAt [.debug] ((scanDir {} mixedEntries "a").log.map Event.seen) =
        [.plain "a/x", .plain "a/m.ini", .plain "a/l.ini", .plain "a/b.ini", .plain "a/t.ini"]
      ∧ (pathsAt [.debug] ((scanDir {} mixedEntries "a").log.map Event.seen)).Nodup
      ∧ pathsAt [.info, .warn] ((scanDir {} mixedEntries "a").log.map Event.seen) =
        [.plain "a/m.ini", .plain "a/l.ini", .plain "a/b.ini", .plain "a/t.ini"]
      ∧ (scanDir {} mixedEntries "a").value.map (fun r => Value.plain r.source) =
        [.plain "a/m.ini", .plain "a/l.ini"]
      ∧ mixedEntries.entries "b" = .error (.system .noEntry)
      ∧ (scanDir {} mixedEntries "b").log.map Event.seen =
        [(.warn, "Cannot open mode directory: No such file or directory (os error 2)",
          [("dir", .plain "b")])] := by
  have hentries : mixedEntries.entries "a" = .ok ["x", "m.ini", "l.ini", "b.ini", "t.ini"] := by
    decide +kernel
  have hmissing : mixedEntries.entries "b" = .error (.system .noEntry) := by decide +kernel
  have haccounted := (scanDir_accounted {} mixedEntries "a").1 _ hentries
  have hunopened := (scanDir_accounted {} mixedEntries "b").2 _ hmissing
  refine ⟨hentries, haccounted.taken, haccounted.distinct (by decide), ?_, ?_, hmissing,
    hunopened.1⟩
  · rw [haccounted.settled]
    decide +kernel
  · rw [← haccounted.loaded]
    decide +kernel

end Scanner

end GadgetModes
