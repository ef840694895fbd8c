import VDiagnostics.Proofs.OutputShapes
import VDiagnostics.Proofs.QuotedTexts

/-! The texts of anomalies in a log. A message tells which line it is about, and whatever a compiler prints, what is
logged of it stays on one line. -/

namespace VDiagnostics

namespace Anomaly

open Text (IsLogLine isLogLine_literal isLogLine_quoted)

/-- What is written to the log of an anomaly stays on its line. -/
def IsLogged (anomaly : Anomaly) : Prop :=
  IsLogLine anomaly.report

variable {reason : Text}

private theorem isLogged_of_message {anomaly : Anomaly} (message : IsLogLine anomaly.message) : anomaly.IsLogged := by
  have name : IsLogLine anomaly.name := by
    unfold name
    split <;> exact isLogLine_literal (by decide)
  exact (name.append (isLogLine_literal (by decide))).append message

theorem IsReason.isLogLine (given : IsReason reason) : IsLogLine reason := by
  cases given with
  | noLocation => exact isLogLine_literal (by decide)
  | notNumeric => exact isLogLine_literal (by decide)
  | fieldsMissing expected found =>
    have start : IsLogLine "expected ".toList := isLogLine_literal (by decide)
    have middle : IsLogLine " fields, got ".toList := isLogLine_literal (by decide)
    exact ((start.append (Text.isLogLine_ofInt expected)).append middle).append (Text.isLogLine_ofNat found)

private theorem isLogged_malformed (line reason : Text) (given : IsReason reason) :
    (malformed line reason).IsLogged := by
  have start : IsLogLine "Malformed diagnostic line (".toList := isLogLine_literal (by decide)
  have stop : IsLogLine "): ".toList := isLogLine_literal (by decide)
  exact isLogged_of_message (((start.append given.isLogLine).append stop).append (isLogLine_quoted line))

private theorem isLogged_orphan (content : Text) : (orphan content).IsLogged := by
  have start : IsLogLine "Continuation line has no preceding record, dropped: ".toList :=
    isLogLine_literal (by decide)
  exact isLogged_of_message (start.append (isLogLine_quoted content))

private theorem message_malformed_inj {first second : Text} :
    (malformed first reason).message = (malformed second reason).message ↔ first = second :=
  (List.append_right_inj _).trans Text.quoted_inj

private theorem message_orphan_inj {first second : Text} :
    (orphan first).message = (orphan second).message ↔ first = second :=
  (List.append_right_inj _).trans Text.quoted_inj

end Anomaly

namespace WarningList

open Line (Grammar)

private theorem logged_takeLine (grammar : Grammar) (raw : Text) (pending : List Pending) (line : Text) :
    (takeLine grammar raw pending line).Notes Anomaly.IsLogged := by
  unfold takeLine
  split
  · exact Traced.notes_ofExcept _
  · split
    · exact Traced.notes_note (Anomaly.isLogged_orphan _) _
    · exact Traced.notes_ofExcept _
  · exact (notes_readRecord (Anomaly.isLogged_malformed _) _ _ _).map _

private theorem logged_extract (grammar : Grammar) (output : Text) : (extract grammar output).Notes Anomaly.IsLogged :=
  (Traced.Notes.fold (logged_takeLine grammar output) [] _).map _

end WarningList

theorem Extraction.logged_records (output : Text) : (records output).Notes Anomaly.IsLogged := by
  unfold records
  split
  · exact Traced.notes_ofExcept _
  · exact (ErrorReport.notes_extract Anomaly.isLogged_malformed output).map _
  · exact (WarningList.logged_extract .standard output).map _

namespace Anomaly

/-- The message of an anomaly tells which line it is about, and what is logged of one is a line of its own, whatever
characters the compiler printed. -/
theorem messages_tell_lines :
    (∀ reason first second : Text,
        (malformed first reason).message = (malformed second reason).message ↔ first = second) ∧
      (∀ first second : Text, (orphan first).message = (orphan second).message ↔ first = second) ∧
      (∀ output : Text, ∀ anomaly ∈ (Extraction.records output).trace, Text.IsLogLine anomaly.report) ∧
      ∀ (grammar : Line.Grammar) (output : Text), ∀ anomaly ∈ (WarningList.extract grammar output).trace,
        Text.IsLogLine anomaly.report :=
  ⟨fun _ _ _ => message_malformed_inj, fun _ _ => message_orphan_inj, Extraction.logged_records,
    WarningList.logged_extract⟩

/-- An error without a location that prints a line like one of a log, a stray line with a line separator, and a line
feed against its own escape. -/
theorem messages_tell_lines_forged :
    let forging := "a\nINFO b\u001b".toList
    let stray := "* a\u2028\"'b".toList
    let lacking := "warning: a.v:1".toList
    let broken : Anomaly := .malformed forging noLocation
    broken ∈ (Extraction.records forging).trace ∧ Text.IsLogLine broken.report ∧
      broken.message = "Malformed diagnostic line (no '.v:' location line): 'a\\nINFO b\\x1b'".toList ∧
      (WarningList.extract .standard (Text.unlines [stray, lacking])).trace =
        [.orphan stray, .malformed lacking (fieldsMissing 5 3)] ∧
      Text.IsLogLine (Anomaly.orphan stray).report ∧
      (malformed ['\n'] notNumeric).message ≠ (malformed ['\\', 'n'] notNumeric).message ∧
      (orphan ['*', '\n']).message ≠ (orphan ['*', '\\', 'n']).message := by
  intro forging stray lacking broken
  obtain ⟨lines, contents, recorded, listed⟩ := messages_tell_lines
  have noted : broken ∈ (Extraction.records forging).trace := by decide +kernel
  have trace : (WarningList.extract .standard (Text.unlines [stray, lacking])).trace =
      [.orphan stray, .malformed lacking (fieldsMissing 5 3)] := by
    decide +kernel
  have listedStray : .orphan stray ∈ (WarningList.extract .standard (Text.unlines [stray, lacking])).trace := by
    rw [trace]
    exact List.mem_cons_self
  exact ⟨noted, recorded _ _ noted, by decide +kernel, trace, listed _ _ _ listedStray,
    mt (lines _ _ _).mp (by decide), mt (contents _ _).mp (by decide)⟩

end Anomaly

end VDiagnostics
