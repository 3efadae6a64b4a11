import Mathlib
import GadgetModes.Host.Pipe

/-!
# Pipes by number

What each operation does to the pipe that it is about, when that is known, and which ends it
leaves open. Past these equations no proof looks into the list of pipes.

Those who may not close some ends can still make pipes, write, read and close other ends
(`Usage`). Whatever they do, these ends stay open, and no closed end is opened again
(`Usage.later`).
-/

namespace GadgetModes.Pipes

variable {ps : Pipes} {n : Nat} {p : Pipe}

theorem pipe?_set_self (h : ps.pipe? n = some p) (q : Pipe) : (ps.set n q).pipe? n = some q := by
  obtain ⟨hn, -⟩ := List.getElem?_eq_some_iff.mp h
  exact List.getElem?_set_self hn

theorem set_self (h : ps.pipe? n = some p) : ps.set n p = ps := by
  obtain ⟨hn, rfl⟩ := List.getElem?_eq_some_iff.mp h
  exact congrArg Pipes.mk (List.set_getElem_self hn)

theorem pipe?_create (ps : Pipes) : ps.create.2.pipe? ps.create.1 = some {} := by
  simp [create, pipe?]

/-! ## Through an open end -/

theorem openPipe?_eq (h : ps.pipe? n = some p) (side : Side) (ho : p.isOpen side = true) :
    ps.openPipe? ⟨n, side⟩ side = some p := by
  rw [openPipe?, if_pos rfl, h, Option.filter_some, if_pos ho]

theorem openPipe?_eq_some_iff {d : Descriptor} {side : Side} :
    ps.openPipe? d side = some p ↔
      d.side = side ∧ ps.pipe? d.pipe = some p ∧ p.isOpen side = true := by
  rw [openPipe?]
  split
  · next hside => rw [Option.filter_eq_some_iff, and_iff_right hside]
  · next hside => simp [hside]

theorem write_eq (h : ps.pipe? n = some p) (hw : p.writeOpen = true) {bytes : List UInt8}
    (hb : bytes ≠ []) :
    ps.write ⟨n, .write⟩ bytes =
      if p.readOpen then .ok (ps.set n { p with buffered := p.buffered ++ bytes })
      else .error .brokenPipe := by
  rw [write, openPipe?_eq h .write hw]
  simp only [List.isEmpty_iff, if_neg hb]

/-- Whatever is written to a pipe whose ends are both open is put behind what is in it. To write
nothing it is enough that the write end is open. -/
theorem write_open (h : ps.pipe? n = some p) (hw : p.writeOpen = true) {bytes : List UInt8}
    (hr : p.readOpen = true ∨ bytes = []) :
    ps.write ⟨n, .write⟩ bytes = .ok (ps.set n { p with buffered := p.buffered ++ bytes }) := by
  by_cases hb : bytes = []
  · rw [write, openPipe?_eq h .write hw]
    simp [hb, set_self h]
  · rw [write_eq h hw hb, if_pos (hr.resolve_right hb)]

theorem write_shut (h : ps.pipe? n = some p) (hw : p.writeOpen = false) (bytes : List UInt8) :
    ps.write ⟨n, .write⟩ bytes = .error .badDescriptor := by
  have hnone : ps.openPipe? ⟨n, .write⟩ .write = none := by
    simp [openPipe?, h, Pipe.isOpen, hw]
  rw [write, hnone]

theorem read_eq (h : ps.pipe? n = some p) (hr : p.readOpen = true) (hb : p.buffered ≠ [])
    (count : Nat) :
    ps.read ⟨n, .read⟩ count =
      .ok (p.buffered.take count, ps.set n { p with buffered := p.buffered.drop count }) := by
  have hne : p.buffered.isEmpty = false := by simpa using hb
  rw [read, openPipe?_eq h .read hr]
  simp [hne]

/-- An empty pipe is at its end when nobody can write to it any more. -/
theorem read_nil (h : ps.pipe? n = some p) (hr : p.readOpen = true) (hb : p.buffered = [])
    {count : Nat} (hcount : 0 < count) :
    ps.read ⟨n, .read⟩ count =
      if p.writeOpen then .error .wouldBlock else .ok ([], ps) := by
  have hsame : ps.set n { p with buffered := p.buffered.drop count } = ps := by
    rw [hb, List.drop_nil, ← hb, set_self h]
  rw [read, openPipe?_eq h .read hr]
  simp only [hsame]
  cases hw : p.writeOpen <;> simp [hb, hcount]

/-- Bytes that were written stand behind those that were in the pipe, and but for no bytes both
ends of it were open. -/
theorem write_ok {ps' : Pipes} {d : Descriptor} {bytes : List UInt8}
    (h : ps.write d bytes = .ok ps') :
    ∃ p, ps.openPipe? d .write = some p ∧ (p.readOpen = true ∨ bytes = [])
      ∧ ps' = ps.set d.pipe { p with buffered := p.buffered ++ bytes } := by
  rw [write] at h
  split at h
  · cases h
  · next p hp =>
    refine ⟨p, hp, ?_⟩
    split at h
    · next hnone =>
      obtain rfl := List.isEmpty_iff.mp hnone
      obtain rfl := Except.ok.inj h
      rw [List.append_nil, set_self (openPipe?_eq_some_iff.mp hp).2.1]
      exact ⟨.inr rfl, rfl⟩
    · split at h
      · next hopen => exact ⟨.inl hopen, (Except.ok.inj h).symm⟩
      · cases h

/-- Bytes that were read stood in front in the pipe, and are gone from it. -/
theorem read_ok {ps' : Pipes} {d : Descriptor} {count : Nat} {bytes : List UInt8}
    (h : ps.read d count = .ok (bytes, ps')) :
    ∃ p, ps.openPipe? d .read = some p ∧ bytes = p.buffered.take count
      ∧ ps' = ps.set d.pipe { p with buffered := p.buffered.drop count } := by
  rw [read] at h
  split at h
  · cases h
  · next p hp =>
    split at h
    · cases h
    · obtain ⟨hbytes, hps⟩ := Prod.mk.inj (Except.ok.inj h)
      exact ⟨p, hp, hbytes.symm, hps.symm⟩

theorem poll_eq (h : ps.pipe? n = some p) {side : Side} (ho : p.isOpen side = true)
    (asked : PollFlags) : ps.poll ⟨n, side⟩ asked = p.polled side asked := by
  rw [poll, h]
  exact if_pos ho

/-- At a read end a poll reports bytes if it was asked for them, and that nobody can write any
more. -/
theorem poll_read (h : ps.pipe? n = some p) (hr : p.readOpen = true) (asked : PollFlags) :
    ps.poll ⟨n, .read⟩ asked =
      { readable := !p.buffered.isEmpty && asked.readable, hangup := !p.writeOpen } := by
  rw [poll_eq h (show p.isOpen .read = true from hr)]
  simp [Pipe.polled, Pipe.conditions, PollFlags.inter]

theorem close_eq (h : ps.pipe? n = some p) (side : Side) :
    ps.close ⟨n, side⟩ = ps.set n (p.close side) := by
  rw [close, h]

/-! ## How many bytes there are -/

theorem byteCount_eq_sum (ps : Pipes) :
    ps.byteCount = (ps.all.map (·.buffered.length)).sum := by
  rw [byteCount, List.sum_eq_foldl, List.foldl_map]

theorem buffered_length_le (h : ps.pipe? n = some p) : p.buffered.length ≤ ps.byteCount := by
  rw [byteCount_eq_sum]
  exact List.single_le_sum (by simp) _ (List.mem_map_of_mem (List.mem_of_getElem? h))

/-! ## Which ends are open -/

theorem pipe?_set_ne {m : Nat} (hm : m ≠ n) (p : Pipe) : (ps.set n p).pipe? m = ps.pipe? m :=
  List.getElem?_set_ne (Ne.symm hm)

theorem isOpen_eq (h : ps.pipe? n = some p) (side : Side) :
    ps.isOpen ⟨n, side⟩ = p.isOpen side := by
  rw [isOpen, h]
  rfl

/-- An open end is one of a pipe that was made. -/
theorem exists_of_isOpen {e : Descriptor} (h : ps.isOpen e = true) :
    ∃ p, ps.pipe? e.pipe = some p ∧ p.isOpen e.side = true := by
  rw [isOpen] at h
  cases hp : ps.pipe? e.pipe with
  | none => rw [hp] at h; cases h
  | some p => exact ⟨p, rfl, by rwa [hp] at h⟩

/-- Changing what is in a pipe opens and closes nothing. -/
theorem isOpen_set {q : Pipe} (h : ps.pipe? n = some p) (hq : ∀ side, q.isOpen side = p.isOpen side)
    (e : Descriptor) : (ps.set n q).isOpen e = ps.isOpen e := by
  by_cases he : e.pipe = n
  · obtain ⟨m, side⟩ := e
    obtain rfl : m = n := he
    rw [isOpen_eq (pipe?_set_self h q), isOpen_eq h, hq]
  · rw [isOpen, pipe?_set_ne he, isOpen]

theorem isOpen_close (ps : Pipes) (d e : Descriptor) :
    (ps.close d).isOpen e = (ps.isOpen e && decide (e ≠ d)) := by
  obtain ⟨n, side⟩ := d
  obtain ⟨m, side'⟩ := e
  cases hp : ps.pipe? n with
  | none =>
      have hopen : ps.isOpen ⟨n, side⟩ = false := by rw [isOpen, hp]; rfl
      rw [close, hp]
      by_cases he : (⟨m, side'⟩ : Descriptor) = ⟨n, side⟩
      · rw [he, hopen]
        rfl
      · simp [he]
  | some p =>
      rw [close_eq hp]
      by_cases hm : m = n
      · subst hm
        rw [isOpen_eq (pipe?_set_self hp _), isOpen_eq hp]
        cases side <;> cases side' <;> simp [Pipe.close, Pipe.isOpen]
      · rw [isOpen, pipe?_set_ne hm, isOpen]
        simp [hm]

/-! ## Working with pipes -/

/-- What can be done to pipes by those who may not close some ends: making pipes, writing,
reading, and closing other ends. -/
inductive Usage (spared : Descriptor → Prop) (ps : Pipes) : Pipes → Prop
  | none : Usage spared ps ps
  | create {ps' : Pipes} (h : Usage spared ps ps') : Usage spared ps ps'.create.2
  | write {ps' ps'' : Pipes} {d : Descriptor} {bytes : List UInt8} (h : Usage spared ps ps')
      (hwrite : ps'.write d bytes = .ok ps'') : Usage spared ps ps''
  | read {ps' ps'' : Pipes} {d : Descriptor} {count : Nat} {bytes : List UInt8}
      (h : Usage spared ps ps') (hread : ps'.read d count = .ok (bytes, ps'')) :
      Usage spared ps ps''
  | close {ps' : Pipes} {d : Descriptor} (h : Usage spared ps ps') (hd : ¬spared d) :
      Usage spared ps (ps'.close d)

theorem Usage.trans {spared : Descriptor → Prop} {ps' ps'' : Pipes} (h : Usage spared ps ps')
    (h' : Usage spared ps' ps'') : Usage spared ps ps'' := by
  induction h' with
  | none => exact h
  | create _ ih => exact ih.create
  | write _ hwrite ih => exact ih.write hwrite
  | read _ hread ih => exact ih.read hread
  | close _ hd ih => exact ih.close hd

/-- Of the pipes that were made the open ends stay open that may not be closed, and no end
that is closed becomes open again. -/
structure Later (spared : Descriptor → Prop) (ps ps' : Pipes) : Prop where
  made : ∀ n p, ps.pipe? n = some p → ∃ p', ps'.pipe? n = some p'
  spared : ∀ e, spared e → ps.isOpen e = true → ps'.isOpen e = true
  closed : ∀ e p, ps.pipe? e.pipe = some p → ps.isOpen e = false → ps'.isOpen e = false

namespace Later

variable {spared : Descriptor → Prop} {ps' ps'' : Pipes}

theorem refl (spared : Descriptor → Prop) (ps : Pipes) : Later spared ps ps where
  made := fun _ p h => ⟨p, h⟩
  spared := fun _ _ h => h
  closed := fun _ _ _ h => h

theorem trans (h : Later spared ps ps') (h' : Later spared ps' ps'') :
    Later spared ps ps'' where
  made := by
    intro n p hp
    obtain ⟨p', hp'⟩ := h.made n p hp
    exact h'.made n p' hp'
  spared := fun e he hopen => h'.spared e he (h.spared e he hopen)
  closed := by
    intro e p hp hclosed
    obtain ⟨p', hp'⟩ := h.made e.pipe p hp
    exact h'.closed e p' hp' (h.closed e p hp hclosed)

/-- Changing what is in a pipe. -/
theorem set {q : Pipe} (h : ps.pipe? n = some p) (hq : ∀ side, q.isOpen side = p.isOpen side) :
    Later spared ps (ps.set n q) where
  made := by
    intro m r hr
    by_cases hm : m = n
    · exact ⟨q, by rw [hm, pipe?_set_self h]⟩
    · exact ⟨r, by rw [pipe?_set_ne hm, hr]⟩
  spared := fun e _ hopen => by rw [isOpen_set h hq, hopen]
  closed := fun e _ _ hclosed => by rw [isOpen_set h hq, hclosed]

theorem create (spared : Descriptor → Prop) (ps : Pipes) : Later spared ps ps.create.2 := by
  have hsame : ∀ n p, ps.pipe? n = some p → ps.create.2.pipe? n = some p := by
    intro n p hp
    obtain ⟨hn, -⟩ := List.getElem?_eq_some_iff.mp hp
    exact (List.getElem?_append_left hn).trans hp
  refine ⟨fun n p hp => ⟨p, hsame n p hp⟩, ?_, ?_⟩
  · intro e _ hopen
    obtain ⟨p, hp, hside⟩ := exists_of_isOpen hopen
    rw [isOpen, hsame _ _ hp]
    exact hside
  · intro e p hp hclosed
    rw [isOpen, hp] at hclosed
    rw [isOpen, hsame _ _ hp]
    exact hclosed

theorem write {d : Descriptor} {bytes : List UInt8} (h : ps.write d bytes = .ok ps') :
    Later spared ps ps' := by
  obtain ⟨p, hp, -, rfl⟩ := write_ok h
  exact .set (openPipe?_eq_some_iff.mp hp).2.1 fun side => by cases side <;> rfl

theorem read {d : Descriptor} {count : Nat} {bytes : List UInt8}
    (h : ps.read d count = .ok (bytes, ps')) : Later spared ps ps' := by
  obtain ⟨p, hp, -, rfl⟩ := read_ok h
  exact .set (openPipe?_eq_some_iff.mp hp).2.1 fun side => by cases side <;> rfl

theorem close {d : Descriptor} (hd : ¬spared d) : Later spared ps (ps.close d) where
  made := by
    intro n p hp
    cases hd' : ps.pipe? d.pipe with
    | none => exact ⟨p, by rw [Pipes.close, hd', hp]⟩
    | some q =>
        rw [Pipes.close, hd']
        by_cases hn : n = d.pipe
        · exact ⟨_, by rw [hn]; exact pipe?_set_self hd' _⟩
        · exact ⟨p, by rw [← hp]; exact pipe?_set_ne hn _⟩
  spared := by
    intro e he hopen
    have hne : e ≠ d := fun h => hd (h ▸ he)
    simp [isOpen_close, hopen, hne]
  closed := by
    intro e p hp hclosed
    simp [isOpen_close, hclosed]

end Later

theorem Usage.later {spared : Descriptor → Prop} {ps' : Pipes} (h : Usage spared ps ps') :
    Later spared ps ps' := by
  induction h with
  | none => exact .refl _ _
  | create _ ih => exact ih.trans (.create _ _)
  | write _ hwrite ih => exact ih.trans (.write hwrite)
  | read _ hread ih => exact ih.trans (.read hread)
  | close _ hd ih => exact ih.trans (.close hd)

/-! ## When the other end is closed -/

theorem write_of_closed (hw : ps.isOpen ⟨n, .write⟩ = true) (hr : ps.isOpen ⟨n, .read⟩ = false)
    {bytes : List UInt8} (hb : bytes ≠ []) : ps.write ⟨n, .write⟩ bytes = .error .brokenPipe := by
  obtain ⟨p, hp, hwrite⟩ := exists_of_isOpen hw
  have hread : p.readOpen = false := by rwa [isOpen_eq hp] at hr
  rw [write_eq hp hwrite hb, hread]
  rfl

/-- Whoever reads sees a hangup, and gets what is left and then nothing. -/
theorem read_of_closed (hr : ps.isOpen ⟨n, .read⟩ = true) (hw : ps.isOpen ⟨n, .write⟩ = false) :
    (∀ asked, (ps.poll ⟨n, .read⟩ asked).hangup = true)
      ∧ ∃ p, ps.pipe? n = some p ∧ ∀ count, ∃ ps',
          ps.read ⟨n, .read⟩ count = .ok (p.buffered.take count, ps') := by
  obtain ⟨p, hp, hread⟩ := exists_of_isOpen hr
  have hwrite : p.writeOpen = false := by rwa [isOpen_eq hp] at hw
  refine ⟨fun asked => ?_, p, hp, fun count => ?_⟩
  · rw [poll_read hp hread, hwrite]
    rfl
  · refine ⟨ps.set n { p with buffered := p.buffered.drop count }, ?_⟩
    rw [read, openPipe?_eq hp .read hread]
    simp [hwrite]

end GadgetModes.Pipes
