import GadgetModes.Config.Read
import GadgetModes.Config.Write
import GadgetModes.Proofs.Toml.Lines

/-!
# Configurations that were written are read

A configuration is read back from what is written of it (`ofText_write`), whatever characters
its texts hold. This does not hang on which of the forms a text is written in: every form that
carries the text will do (`ofText_writeWith`). So nothing that a text says about a configuration
is lost when the configuration is written and read again.
-/

namespace GadgetModes.Config

open GadgetModes.Toml GadgetModes.Toml.Document

variable {choose : List Char → Form}

/-! ## The table of a configuration -/

def modesTable (m : Modes) : Table :=
  [("dir", .string m.dir), ("diag_dir", .string m.diagDir), ("diagnostic", .boolean m.diagnostic)]

def featuresTable (f : Features) : Table :=
  [("tethering", .boolean f.tethering)]

def loggingTable (l : Logging) : Table :=
  [("level", .string l.level)]

def toTable (c : Config) : Table :=
  [("modes", .table .header (modesTable c.modes)),
   ("features", .table .header (featuresTable c.features)),
   ("logging", .table .header (loggingTable c.logging))]

/-- The table sets every field, so that no default is left. -/
theorem ofTable_toTable (c : Config) : ofTable (toTable c) = .ok c := rfl

/-! ## The statements of a configuration -/

def modesBindings (m : Modes) : List (String × Expr) :=
  [("dir", .string m.dir), ("diag_dir", .string m.diagDir), ("diagnostic", .boolean m.diagnostic)]

def featuresBindings (f : Features) : List (String × Expr) :=
  [("tethering", .boolean f.tethering)]

def loggingBindings (l : Logging) : List (String × Expr) :=
  [("level", .string l.level)]

theorem gives_modes (m : Modes) : Gives (modesBindings m) (modesTable m) := by
  simp [Gives, modesBindings, modesTable, Expr.value?]

theorem gives_features (f : Features) : Gives (featuresBindings f) (featuresTable f) := by
  simp [Gives, featuresBindings, featuresTable, Expr.value?]

theorem gives_logging (l : Logging) : Gives (loggingBindings l) (loggingTable l) := by
  simp [Gives, loggingBindings, loggingTable, Expr.value?]

def toStatements (c : Config) : List Statement :=
  tableStatements "modes" (modesBindings c.modes)
    ++ tableStatements "features" (featuresBindings c.features)
    ++ tableStatements "logging" (loggingBindings c.logging)

theorem carryOut_toStatements (c : Config) : carryOut (toStatements c) = some (toTable c) := by
  rw [carryOut, toStatements, List.foldlM_append, List.foldlM_append,
    show ({} : Document) = ⟨[], []⟩ from rfl,
    foldlM_tableStatements rfl (gives_modes c.modes) (by simp [modesTable]),
    Option.bind_eq_bind, Option.bind_some,
    foldlM_tableStatements rfl (gives_features c.features) (by simp [featuresTable]),
    Option.bind_some,
    foldlM_tableStatements rfl (gives_logging c.logging) (by simp [loggingTable])]
  rfl

theorem written_string (h : ∀ text, (choose text).Carries text) (s : String) :
    Written (.string s) (writtenIn (choose s.toList) s.toList) := by
  simpa using written_text (h s.toList)

/-- What is written is read as the header and the entries of one table after the other. -/
theorem reads_writeWith (h : ∀ text, (choose text).Carries text) (c : Config) :
    Reads (writeWith choose c).toList (toStatements c) := by
  have htext := written_string h
  simp only [writeWith, String.toList_ofList, List.append_assoc, List.cons_append]
  refine .header ?_ (by decide)
  refine .entry ?_ (by decide) (htext c.modes.dir)
  refine .entry ?_ (by decide) (htext c.modes.diagDir)
  refine .entry ?_ (by decide) (written_truth c.modes.diagnostic)
  refine .blank (.header ?_ (by decide))
  refine .entry ?_ (by decide) (written_truth c.features.tethering)
  refine .blank (.header ?_ (by decide))
  rw [← List.append_nil (entryLine _ _)]
  exact .entry .nil (by decide) (htext c.logging.level)

/-! ## Round trips -/

theorem read_writeWith (h : ∀ text, (choose text).Carries text) (c : Config) :
    Document.read (writeWith choose c) = some (toTable c) := by
  have hreads := statementsOf_written (reads_writeWith h c)
    (by simp [writeWith, headerLine, byteOrderMark])
  rw [String.ofList_toList] at hreads
  rw [Document.read, hreads, Option.bind_some, carryOut_toStatements]

theorem ofText_writeWith (h : ∀ text, (choose text).Carries text) (c : Config) :
    ofText (writeWith choose c) = .ok c := by
  rw [ofText, read_writeWith h c]
  exact congrArg (Except.mapError Fault.wrongType) (ofTable_toTable c)

/--
Every configuration is read back from what is written of it. So a text that is read as a
configuration, and what is written of that configuration, are read as the same one. Other
forms do as well, as long as each of them carries its text.
-/
theorem ofText_write :
    (∀ c, ofText (write c) = .ok c)
      ∧ (∀ text, (ofText text).bind (fun c => ofText (write c)) = ofText text)
      ∧ ∀ choose : List Char → Form, (∀ text, (choose text).Carries text) →
          ∀ c, ofText (writeWith choose c) = .ok c := by
  have hread (c : Config) : ofText (write c) = .ok c := ofText_writeWith Form.formOf_carries c
  refine ⟨hread, fun text => ?_, fun choose => ofText_writeWith⟩
  cases htext : ofText text with
  | error fault => rfl
  | ok c => simpa only [Except.bind] using hread c

/-- A configuration with quotes, backslashes, controls and line ends in its texts. -/
def marked : Config :=
  ⟨⟨"/a\"b'c", "\\x\x00\x7f\u0085", true⟩, ⟨false⟩, ⟨"\r\n"⟩⟩

/-- It is read back also where every text is written with escapes, on one line. -/
theorem ofText_write_escapesOnly :
    (∀ text, Form.basic.Carries text) ∧
      ofText (writeWith (fun _ => .basic) marked) = .ok marked :=
  ⟨fun _ => .inl rfl, ofText_write.2.2 (fun _ => .basic) (fun _ => .inl rfl) marked⟩

end GadgetModes.Config
