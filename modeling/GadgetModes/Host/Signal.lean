/-!
# Signals

The signals of Linux on x86-64 with numbers from 1 to 31, their names, and what each
does to a process that neither handles nor ignores it.
-/

namespace GadgetModes

/-- A signal, by its number. -/
structure Signal where
  number : Nat
  valid : 1 ≤ number ∧ number ≤ 31
deriving DecidableEq

namespace Signal

/-- The names of the signals by their numbers, from 1 on. -/
def names : Vector String 31 :=
  #v["SIGHUP", "SIGINT", "SIGQUIT", "SIGILL", "SIGTRAP", "SIGABRT", "SIGBUS", "SIGFPE",
     "SIGKILL", "SIGUSR1", "SIGSEGV", "SIGUSR2", "SIGPIPE", "SIGALRM", "SIGTERM",
     "SIGSTKFLT", "SIGCHLD", "SIGCONT", "SIGSTOP", "SIGTSTP", "SIGTTIN", "SIGTTOU",
     "SIGURG", "SIGXCPU", "SIGXFSZ", "SIGVTALRM", "SIGPROF", "SIGWINCH", "SIGIO",
     "SIGPWR", "SIGSYS"]

def name (s : Signal) : String :=
  names.get ⟨s.number - 1, by have := s.valid; omega⟩

def ofNumber? (n : Int) : Option Signal :=
  if h : 1 ≤ n ∧ n ≤ 31 then some ⟨n.toNat, by omega⟩ else none

def ofName? (name : String) : Option Signal :=
  (names.toList.idxOf? name).bind fun i => ofNumber? (i + 1)

def hangup : Signal := ⟨1, by decide⟩
def interrupt : Signal := ⟨2, by decide⟩
def quit : Signal := ⟨3, by decide⟩
def abort : Signal := ⟨6, by decide⟩
def kill : Signal := ⟨9, by decide⟩
def brokenPipe : Signal := ⟨13, by decide⟩
def terminate : Signal := ⟨15, by decide⟩
def child : Signal := ⟨17, by decide⟩
def resume : Signal := ⟨18, by decide⟩
def stop : Signal := ⟨19, by decide⟩
def terminalStop : Signal := ⟨20, by decide⟩
def backgroundRead : Signal := ⟨21, by decide⟩
def backgroundWrite : Signal := ⟨22, by decide⟩
def urgent : Signal := ⟨23, by decide⟩
def windowChange : Signal := ⟨28, by decide⟩

/-- Neither a handler nor a deaf ear can be set for these. -/
def isUntrappable (s : Signal) : Bool :=
  s = kill || s = stop

/-- What a signal does to a process that left it alone. -/
inductive Effect where
  | terminates
  | stops
  | nothing
deriving DecidableEq

/-- What a signal does to a process that left it alone. -/
def defaultEffect (s : Signal) : Effect :=
  if s ∈ [child, resume, urgent, windowChange] then .nothing
  else if s ∈ [stop, terminalStop, backgroundRead, backgroundWrite] then .stops
  else .terminates

end Signal

end GadgetModes
