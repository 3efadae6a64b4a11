import Mathlib.Data.List.Basic
import GadgetModes.Proofs.FileSystem.Reading
import GadgetModes.Proofs.Mode.Validation

/-!
# Mode files

A mode file is read like its text, less one byte order mark (`Record.ofFile_of_text`). However
reading it ends, the path is reported first; what is reported after it, and the record, are told
by the way it ended (`Record.Ends`, `Record.load_ends`).
-/

namespace GadgetModes

open GadgetModes.Log GadgetModes.Text

namespace Log.Event

def seen (e : Event) : Level × String × List (String × Value) :=
  (e.level, e.message, e.fields)

end Log.Event

namespace Mode

variable {options : Options} {fs : FileSystem} {path : String}

/-! ## Byte order marks -/

namespace Description

def byteOrderMark : List UInt8 :=
  [0xEF, 0xBB, 0xBF]

/-- The same bytes, less one byte order mark that they start with. -/
def Unmarked (bytes body : List UInt8) : Prop :=
  bytes = byteOrderMark ++ body ∨ ¬byteOrderMark <+: bytes ∧ bytes = body

theorem dropMark_of_unmarked {bytes body : List UInt8} (h : Unmarked bytes body) :
    dropMark bytes = body := by
  rcases h with rfl | ⟨hmark, rfl⟩
  · rfl
  · rw [dropMark.eq_def]
    split
    · next rest => exact absurd ⟨rest, rfl⟩ hmark
    · rfl

theorem fileText_eq {bytes body : List UInt8} (hbytes : fs.bytes path = .ok bytes)
    (hbody : Unmarked bytes body) : fileText fs path = FileSystem.decode body := by
  rw [fileText, hbytes, ← dropMark_of_unmarked hbody]
  rfl

end Description

/-! ## Files and texts -/

namespace Record

open Description (fileText Unmarked)

theorem ofFile_of_text {content : String} (h : fileText fs path = .ok content) :
    ofFile options fs path = ofText options path content := by
  rw [ofFile, Description.ofFile, h, ofText]

theorem ofFile_of_fault {fault : IoFault} (h : fileText fs path = .error fault) :
    ofFile options fs path = .error (.unreadable (.io fault)) := by
  rw [ofFile, Description.ofFile, h]
  rfl

/-! ## Ends -/

/-- How reading a mode file can end, and what is reported then. -/
inductive Ends (options : Options) (fs : FileSystem) (path : String) :
    Except Rejection Record → List Event → Prop
  | unreadable {fault : IoFault} (htext : fileText fs path = .error fault) :
      Ends options fs path (.error (.unreadable (.io fault)))
        [.unreadableModeFile path (.io fault)]
  | malformed {content : String} {fault : KeyFile.Fault} (htext : fileText fs path = .ok content)
      (hread : KeyFile.read content = .error fault) :
      Ends options fs path (.error (.unreadable (.malformed fault)))
        [.unreadableModeFile path (.malformed fault)]
  | unmet {content : String} {file : KeyFile} {q : Requirement}
      (htext : fileText fs path = .ok content) (hread : KeyFile.read content = .ok file)
      (hfirst : Requirement.firstUnmet? (Description.fields options file) = some q) :
      Ends options fs path (.error q.rejection)
        [.invariantViolated q.invariant, .rejectedModeFile path q.rejection]
  | loaded {content : String} {file : KeyFile} {r : Record}
      (htext : fileText fs path = .ok content) (hread : KeyFile.read content = .ok file)
      (hrecord : ofFields path (Description.fields options file) = .ok r) :
      Ends options fs path (.ok r) [.loadedMode path r.name r.module]

theorem rejectionEvent_requirement (path : String) (q : Requirement) :
    rejectionEvent path q.rejection = .rejectedModeFile path q.rejection := by
  cases q <;> rfl

/-- The path is reported first, and then what the end asks for. -/
theorem load_ends (options : Options) (fs : FileSystem) (path : String) :
    ∃ events, Ends options fs path (ofFile options fs path) events
      ∧ load options fs path =
        ⟨(ofFile options fs path).toOption, .readingModeFile path :: events⟩ := by
  rw [ofFile, load, Description.ofFile]
  cases htext : fileText fs path with
  | error fault => exact ⟨_, .unreadable htext, rfl⟩
  | ok content =>
    simp only [Description.ofText]
    cases hread : KeyFile.read content with
    | error fault => exact ⟨_, .malformed htext hread, rfl⟩
    | ok file =>
      have hbuild := build_eq path (Description.fields options file)
      rw [(Description.fields options file).validate_eq] at hbuild
      simp only [Except.bind, hbuild]
      cases hfirst : Requirement.firstUnmet? (Description.fields options file) with
      | some q =>
        rw [ofFields_eq_error hfirst]
        refine ⟨_, .unmet htext hread hfirst, ?_⟩
        rw [← rejectionEvent_requirement]
        rfl
      | none =>
        obtain ⟨r, hr⟩ : ∃ r, ofFields path (Description.fields options file) = .ok r :=
          exists_ofFields_eq_ok_iff.mpr (Requirement.firstUnmet?_eq_none_iff.mp hfirst)
        rw [hr]
        exact ⟨_, .loaded htext hread hr, rfl⟩

theorem load_value (options : Options) (fs : FileSystem) (path : String) :
    (load options fs path).value = (ofFile options fs path).toOption := by
  obtain ⟨events, -, hload⟩ := load_ends options fs path
  rw [hload]

/-- A file is read as the text that its bytes are, less one byte order mark, with the path as the
source; bytes that are no text cannot be read. Reading a path with a log gives the same record, if
there is one. The log has the path, and then one entry on how it ended; a requirement that the
fields do not meet is reported before that. -/
theorem readings_agree (options : Options) (fs : FileSystem) (path : String) :
    (∀ place bytes body, fs.resolve path = .ok place → fs.node? place = some (.file bytes) →
        Unmarked bytes body →
          (∀ content, utf8 content = body →
            ofFile options fs path = ofText options path content)
          ∧ ((∀ content, utf8 content ≠ body) →
            ofFile options fs path = .error (.unreadable (.io .notUtf8))))
      ∧ (∀ r, (load options fs path).value = some r ↔ ofFile options fs path = .ok r)
      ∧ ∃ events : List Event,
          (load options fs path).log.map Event.seen =
              (.debug, "Reading mode file", [("path", .plain path)]) :: events.map Event.seen
          ∧ (∀ r, ofFile options fs path = .ok r →
              events.map Event.seen = [(.info, "Loaded mode",
                [("path", .plain path), ("mode", .quoted r.name), ("module", .quoted r.module)])])
          ∧ (∀ cause, ofFile options fs path = .error (.unreadable cause) →
              events.map Event.seen = [(.warn, "Failed to read mode file: " ++ cause.reason,
                [("path", .plain path)])])
          ∧ ∀ rejection, ofFile options fs path = .error rejection →
              (∀ cause, rejection ≠ .unreadable cause) →
                ∃ content file before q after, fileText fs path = .ok content
                  ∧ KeyFile.read content = .ok file
                  ∧ Requirement.all = before ++ q :: after
                  ∧ (∀ p ∈ before, p.Met (Description.fields options file))
                  ∧ ¬q.Met (Description.fields options file)
                  ∧ rejection = q.rejection
                  ∧ events.map Event.seen =
                    [(.trace, "Invariant violated", [("invariant", .quoted q.invariant.name)]),
                      (.warn, "Rejected mode file: " ++ rejection.message,
                        [("path", .plain path), ("field", .quoted rejection.field)])] := by
  refine ⟨?_, fun r => ?_, ?_⟩
  · intro place bytes body hplace hfile hbody
    have htext : fileText fs path = FileSystem.decode body :=
      Description.fileText_eq (FileSystem.bytes_eq_ok_iff.mpr ⟨place, hplace, hfile⟩) hbody
    constructor
    · intro content hcontent
      exact ofFile_of_text (htext.trans (FileSystem.decode_eq_ok_iff.mpr hcontent))
    · intro hnone
      exact ofFile_of_fault (htext.trans (FileSystem.decode_of_no_text hnone))
  · rw [load_value]
    cases ofFile options fs path <;> simp [Except.toOption]
  · obtain ⟨events, hends, hload⟩ := load_ends options fs path
    refine ⟨events, by rw [hload]; rfl, ?_⟩
    generalize ofFile options fs path = result at hends
    cases hends with
    | unreadable htext =>
      refine ⟨fun r hr => (by cases hr), ?_, ?_⟩
      · rintro _ ⟨⟩
        rfl
      · rintro _ ⟨⟩ hreadable
        exact absurd rfl (hreadable _)
    | malformed htext hread =>
      refine ⟨fun r hr => (by cases hr), ?_, ?_⟩
      · rintro _ ⟨⟩
        rfl
      · rintro _ ⟨⟩ hreadable
        exact absurd rfl (hreadable _)
    | @unmet content file q htext hread hfirst =>
      obtain ⟨hq, before, after, hall, hbefore⟩ := Requirement.exists_of_firstUnmet?_eq_some hfirst
      refine ⟨fun r hr => (by cases hr), ?_, ?_⟩
      · intro cause hcause
        cases q <;> cases hcause
      · rintro _ ⟨⟩ -
        exact ⟨content, file, before, q, after, htext, hread, hall, hbefore, hq, rfl, rfl⟩
    | loaded htext hread hrecord =>
      refine ⟨?_, fun _ h => (by cases h), fun _ h => (by cases h)⟩
      rintro _ ⟨⟩
      rfl

/-- A mode file with a byte order mark, one whose bytes are no text, and one without a module. -/
def markedFiles : FileSystem where
  nodes :=
    [(["a.ini"], .file (Description.byteOrderMark ++ utf8 "[mode]\nname=M\nmodule=g\n")),
      (["b.ini"], .file [0xFF]), (["c.ini"], .file (utf8 "[mode]\nname=M\n"))]

/-- The mark does not count, and the other two are reported with what is wrong with them. -/
theorem readings_agree_markedFiles :
    (∃ r, ofText {} "a.ini" "[mode]\nname=M\nmodule=g\n" = .ok r
        ∧ (load {} markedFiles "a.ini").value = some r)
      ∧ ofFile {} markedFiles "b.ini" = .error (.unreadable (.io .notUtf8))
      ∧ (load {} markedFiles "b.ini").log.map Event.seen =
        [(.debug, "Reading mode file", [("path", .plain "b.ini")]),
          (.warn, "Failed to read mode file: stream did not contain valid UTF-8",
            [("path", .plain "b.ini")])]
      ∧ ofFile {} markedFiles "c.ini" = .error (.missingField "mode" "module")
      ∧ ∃ first last, (load {} markedFiles "c.ini").log.map Event.seen =
        [first, (.trace, "Invariant violated", [("invariant", .quoted "identity")]), last] := by
  obtain ⟨hmarked, hvalue, -⟩ := readings_agree {} markedFiles "a.ini"
  obtain ⟨hbad, -, badEvents, hbadLog, -, hbadEnd, -⟩ := readings_agree {} markedFiles "b.ini"
  obtain ⟨-, -, events, hlog, -, -, hend⟩ := readings_agree {} markedFiles "c.ini"
  have hnone : ∀ content, utf8 content ≠ [0xFF] := fun content hcontent => by
    have hdecode : FileSystem.decode [0xFF] = .error .notUtf8 := by decide +kernel
    cases hdecode.symm.trans (FileSystem.decode_eq_ok_iff.mpr hcontent)
  have hunread : ofFile {} markedFiles "b.ini" = .error (.unreadable (.io .notUtf8)) :=
    (hbad ["b.ini"] _ _ (by decide +kernel) rfl (.inr ⟨by decide, rfl⟩)).2 hnone
  have hrejected : ofFile {} markedFiles "c.ini" = .error (.missingField "mode" "module") := by
    decide +kernel
  refine ⟨?_, hunread, ?_, hrejected, ?_⟩
  · have htext : ofText {} "a.ini" "[mode]\nname=M\nmodule=g\n" =
        .ok ⟨"a.ini", { name := some "M", module := some "g" }, by decide, {}⟩ := by
      decide +kernel
    refine ⟨_, htext, (hvalue _).mpr (Eq.trans ?_ htext)⟩
    exact (hmarked ["a.ini"] _ _ (by decide +kernel) rfl (.inl rfl)).1 _ rfl
  · rw [hbadLog, hbadEnd _ hunread]
    rfl
  · obtain ⟨content, file, before, q, after, -, -, -, -, -, hq, hevents⟩ :=
      hend _ hrejected nofun
    obtain rfl : q = .module := by
      revert hq
      cases q <;> simp [Requirement.rejection]
    rw [hlog, hevents]
    exact ⟨_, _, rfl⟩

end Record

end Mode

end GadgetModes
