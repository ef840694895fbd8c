import VDiagnostics.Proofs.Formats
import VDiagnostics.Proofs.LineAccounts
import VDiagnostics.Proofs.Verdicts

/-! What an output can amount to. It is read as nothing, as one error or as some warnings, so a collection
that takes one output after the other never has errors beside warnings. -/

namespace VDiagnostics

namespace Traced

variable {ε α β : Type} {kind : ε → Prop}

/-- All that is noted is of one kind. -/
def Notes (kind : ε → Prop) (traced : Traced ε α) : Prop :=
  ∀ event ∈ traced.trace, kind event

theorem notes_ofExcept (result : Except Fault α) : (ofExcept result : Traced ε α).Notes kind := by
  intro event noted
  cases noted

theorem notes_note {event : ε} (meant : kind event) (value : α) : (note event value).Notes kind := by
  intro noted member
  rwa [List.mem_singleton.mp member]

namespace Notes

theorem map {traced : Traced ε α} (notes : traced.Notes kind) (f : α → β) : (traced.map f).Notes kind :=
  notes

theorem andThen {traced : Traced ε α} {next : α → Traced ε β} (notes : traced.Notes kind)
    (later : ∀ value, (next value).Notes kind) : (traced.andThen next).Notes kind := by
  obtain ⟨trace, result⟩ := traced
  cases result with
  | error fault => exact notes
  | ok value => exact List.forall_mem_append.mpr ⟨notes, later value⟩

theorem collect {read : α → Traced ε β} (notes : ∀ item, (read item).Notes kind) (items : List α) :
    (Traced.collect read items).Notes kind := by
  induction items with
  | nil => exact notes_ofExcept _
  | cons item rest ih => exact (notes item).andThen fun value => ih.map _

theorem fold {step : β → α → Traced ε β} (notes : ∀ state item, (step state item).Notes kind) (state : β)
    (items : List α) : (Traced.fold step state items).Notes kind := by
  induction items generalizing state with
  | nil => exact notes_ofExcept _
  | cons item rest ih => exact (notes state item).andThen ih

end Notes

end Traced

namespace Anomaly

/-- Something is wrong with a line itself, and not with where it stands. -/
def IsMalformed (anomaly : Anomaly) : Prop :=
  ∃ line reason, anomaly = .malformed line reason

/-- The reasons that extraction gives for a malformed line. -/
inductive IsReason : Text → Prop where
  | noLocation : IsReason noLocation
  | notNumeric : IsReason notNumeric
  | fieldsMissing (expected : Int) (found : Nat) : IsReason (fieldsMissing expected found)

end Anomaly

namespace WarningList

open Anomaly (IsReason)

private theorem isReason_defect {grammar : Line.Grammar} {fields : List Text} {record : Record} {reason : Text}
    (found : defect? grammar fields record = some reason) : IsReason reason := by
  unfold defect? at found
  split at found
  · cases found
    exact .fieldsMissing _ _
  · split at found
    · cases found
    · cases found
      exact .notNumeric

theorem notes_readRecord {kind : Anomaly → Prop} {line : Text}
    (meant : ∀ reason, IsReason reason → kind (.malformed line reason)) (grammar : Line.Grammar) (raw : Text)
    (fields : List Text) : (readRecord grammar raw line fields).Notes kind := by
  refine (Traced.notes_ofExcept _).andThen fun row => (Traced.notes_ofExcept _).andThen fun column => ?_
  dsimp only
  split
  · exact Traced.notes_ofExcept _
  next reason found => exact Traced.notes_note (meant reason (isReason_defect found)) _

/-- An output that begins like a warning begins with a line that continues nothing. -/
theorem starts_of_warning {output : Text} (starts : Text.startsWith Format.warningStart output) :
    let division := Segmentation.ofLines .standard (Text.remarks output)
    division.leading = [] ∧ division.segments ≠ [] := by
  obtain ⟨rest, rfl⟩ := List.isPrefixOf_iff_prefix.mp starts
  obtain ⟨line, others, said⟩ := Text.remarks_printed (c := 'w') rfl (by decide) (Format.warningStart.tail ++ rest)
  have fresh : ¬ Line.Grammar.standard.Continues ('w' :: line) := by
    rintro ⟨_, marked⟩
    simp [Line.Grammar.standard] at marked
  intro division
  have whole : division = Segmentation.ofLines .standard (('w' :: line) :: others) := congrArg _ said
  rw [whole, Segmentation.ofLines_started fresh]
  exact ⟨rfl, List.cons_ne_nil _ _⟩

/-- Nothing that begins like a warning is left without records, and none of its lines is lost. -/
theorem shape_of_warning {output : Text} (starts : Text.startsWith Format.warningStart output) :
    (extract .standard output).Notes Anomaly.IsMalformed ∧
      ∀ found, (extract .standard output).result = .ok found → found ≠ [] := by
  obtain ⟨leading, filled⟩ := starts_of_warning starts
  rw [extract_eq_read, Segmentation.read, leading]
  refine ⟨Traced.Notes.collect (fun segment => (notes_readRecord (fun reason _ => ⟨_, reason, rfl⟩) _ _ _).map _) _, ?_⟩
  rintro _ read rfl
  have length := (Traced.collect_ok read).1.length_eq
  exact filled (List.eq_nil_of_length_eq_zero length)

end WarningList

namespace ErrorReport

variable {kind : Anomaly → Prop}

private theorem notes_readLocation (meant : ∀ line reason, Anomaly.IsReason reason → kind (.malformed line reason))
    (raw line : Text) : (readLocation raw line).Notes kind := by
  refine (Traced.notes_ofExcept _).andThen fun row => (Traced.notes_ofExcept _).andThen fun column => ?_
  dsimp only
  split
  · exact Traced.notes_ofExcept _
  · exact Traced.notes_note (meant line _ .notNumeric) _

theorem notes_extract (meant : ∀ line reason, Anomaly.IsReason reason → kind (.malformed line reason)) (output : Text) :
    (extract output).Notes kind := by
  unfold extract
  dsimp only
  split
  · exact (Traced.notes_note (meant _ _ .noLocation) _).map _
  · exact (notes_readLocation meant _ _).map _

end ErrorReport

namespace Extraction

/-- In no output is a line noted for where it stands. -/
theorem notes_records (output : Text) : (records output).Notes Anomaly.IsMalformed := by
  unfold records
  split
  next => exact Traced.notes_ofExcept _
  next => exact (ErrorReport.notes_extract (fun line reason _ => ⟨line, reason, rfl⟩) output).map _
  next warning =>
    exact (WarningList.shape_of_warning (Format.ofOutput_eq_warning.mp warning)).1.map _

/-- The format that an output is read in goes with the number of its records. -/
structure Shape (format : Format) (found : List Record) : Prop where
  clean : format = .clean ↔ found = []
  error : format = .error → ∃ record, found = [record]
  warning : format = .warning → found ≠ []

private theorem shape_records {output : Text} {format : Format} {found : List Record}
    (read : (records output).result = .ok (format, found)) : Shape format found := by
  rcases StorePolicy.records_shape read with ⟨rfl, rfl⟩ | ⟨rfl, record, rfl⟩ | rfl
  · exact ⟨by simp, by simp, by simp⟩
  · exact ⟨by simp, by simp, by simp⟩
  · have warning := (format_of_records read).symm
    have filled : found ≠ [] := by
      simp only [records, warning] at read
      obtain ⟨recovered, answered, same⟩ := Traced.map_result_ok read
      obtain rfl : recovered = found := congrArg Prod.snd same
      exact (WarningList.shape_of_warning (Format.ofOutput_eq_warning.mp warning)).2 _ answered
    exact ⟨by simp [filled], by simp, fun _ => filled⟩

end Extraction

namespace Collection

/-- All diagnostics of a collection, file after file. -/
def held (collection : Collection) : List Diagnostic :=
  collection.entries.flatMap Prod.snd

def HoldsError (collection : Collection) : Prop :=
  ∃ diagnostic, collection.held = [diagnostic] ∧ diagnostic.severity = .error

def HoldsWarnings (collection : Collection) : Prop :=
  collection.held ≠ [] ∧ ∀ diagnostic ∈ collection.held, diagnostic.severity = .warning

/-- A collection has nothing after a success, and after a failure one error or else warnings only. -/
structure Settled (collection : Collection) (verdict : Lint.Verdict) : Prop where
  shape : collection.entries = [] ∨ collection.HoldsError ∨ collection.HoldsWarnings
  success : collection.entries = [] ↔ verdict = .success
  failure : collection.HoldsError ∨ collection.HoldsWarnings ↔ verdict = .failure
  unmixed : ∀ one ∈ collection.held, ∀ other ∈ collection.held, one.severity = other.severity

variable {collection : Collection}

private theorem entries_ne_nil (holds : collection.HoldsError ∨ collection.HoldsWarnings) :
    collection.entries ≠ [] := by
  intro emptied
  have nothing : collection.held = [] := by rw [held, emptied]; rfl
  rcases holds with ⟨diagnostic, single, _⟩ | ⟨filled, _⟩
  · rw [nothing] at single
    cases single
  · exact filled nothing

private theorem settled_emptied (emptied : collection.entries = []) : collection.Settled .success where
  shape := .inl emptied
  success := iff_of_true emptied rfl
  failure := iff_of_false (fun holds => entries_ne_nil holds emptied) (by simp)
  unmixed := by simp [held, emptied]

private theorem settled_filled (holds : collection.HoldsError ∨ collection.HoldsWarnings) :
    collection.Settled .failure where
  shape := .inr holds
  success := iff_of_false (entries_ne_nil holds) (by simp)
  failure := iff_of_true holds rfl
  unmixed := by
    intro one inside other also
    rcases holds with ⟨diagnostic, single, _⟩ | ⟨_, warnings⟩
    · rw [single, List.mem_singleton] at inside also
      rw [inside, also]
    · rw [warnings one inside, warnings other also]

end Collection

namespace Lint

open Journal (Entry)

/-- An output for a document, from a compiler that ran in some folder. -/
structure Delivery where
  document : Text
  cwd : Text
  output : Text
  deriving DecidableEq

/-- What becomes of outputs that a collection takes one after the other. -/
def history (collection : Collection) : List Delivery → List (Outcome Collection Entry Result)
  | [] => []
  | delivery :: rest =>
    let taken := apply collection delivery.document delivery.cwd delivery.output
    taken :: history taken.state rest

/-- One output settles the collection, whatever it held before. -/
theorem settled_apply {collection : Collection} {document cwd output : Text} {result : Result}
    (answered : (apply collection document cwd output).result = .ok result) :
    (apply collection document cwd output).state.Settled result.verdict := by
  obtain ⟨opened, format, found, read, rfl⟩ := StorePolicy.apply_answered answered
  have shape := Extraction.shape_records read
  have kept := Grouping.byFile_perm (Extraction.place cwd format found)
  rw [(StorePolicy.apply_open document cwd opened read).2]
  cases format with
  | clean =>
    apply Collection.settled_emptied
    rfl
  | error =>
    obtain ⟨record, rfl⟩ := shape.error rfl
    apply Collection.settled_filled
    exact .inl ⟨Diagnostic.ofRecord cwd .error record, kept.eq_singleton, rfl⟩
  | warning =>
    have filled := shape.warning rfl
    apply Collection.settled_filled
    refine .inr ⟨fun nothing => ?_, fun diagnostic inside => ?_⟩
    · have none : ([] : List Diagnostic).Perm (Extraction.place cwd .warning found) := nothing ▸ kept
      exact filled (List.map_eq_nil_iff.mp none.symm.eq_nil)
    · obtain ⟨record, _, rfl⟩ := List.mem_map.mp (kept.mem_iff.mp inside)
      rfl

private theorem settled_of_mem {collection : Collection} {deliveries : List Delivery}
    (answered : ∀ taken ∈ history collection deliveries, taken.result.isOk) :
    ∀ taken ∈ history collection deliveries, ∃ result, taken.result = .ok result ∧
      taken.state.Settled result.verdict := by
  induction deliveries generalizing collection with
  | nil => simp [history]
  | cons delivery rest ih =>
    obtain ⟨first, others⟩ := List.forall_mem_cons.mp answered
    refine List.forall_mem_cons.mpr ⟨?_, ih others⟩
    cases read : (apply collection delivery.document delivery.cwd delivery.output).result with
    | error fault => simp [read, Except.isOk, Except.toBool] at first
    | ok result => exact ⟨result, rfl, settled_apply read⟩

/-- Outputs are read in shape and without a line that continues nothing. A collection that takes them one after
the other is settled after each: it has nothing, one error or only warnings. -/
theorem settled_history :
    (∀ output format found, (Extraction.records output).result = .ok (format, found) →
        Extraction.Shape format found) ∧
      (∀ output line, .orphan line ∉ (Extraction.records output).trace) ∧
      ∀ (collection : Collection) (deliveries : List Delivery),
        (∀ taken ∈ history collection deliveries, taken.result.isOk) →
        ∀ taken ∈ history collection deliveries, ∃ result, taken.result = .ok result ∧
          taken.state.Settled result.verdict := by
  refine ⟨fun output format found => Extraction.shape_records, fun output line noted => ?_,
    fun collection deliveries => settled_of_mem⟩
  obtain ⟨other, reason, same⟩ := Extraction.notes_records output _ noted
  cases same

/-- Warnings for two files, then an error for one of them, and then nothing. -/
theorem settled_history_mended :
    let warned : Delivery := ⟨"/w/a.v".toList, "/w".toList, "warning: a.v:1:2: x\n * y\nwarning: b.v:3:4: z".toList⟩
    let broken : Delivery := ⟨"/w/a.v".toList, "/w".toList, "b.v:5:6: error: t\n * u".toList⟩
    let mended : Delivery := ⟨"/w/a.v".toList, "/w".toList, "\n".toList⟩
    let taken := history (Collection.empty Diagnostic.source) [warned, broken, mended]
    (∃ found, (Extraction.records warned.output).result = .ok (.warning, found) ∧
        Extraction.Shape .warning found) ∧
      taken.map (fun outcome => outcome.result.toOption.map Result.verdict) =
        [some .failure, some .failure, some .success] ∧
      taken.map (fun outcome => outcome.state.held.map Diagnostic.severity) = [[.warning, .warning], [.error], []] ∧
      ∀ outcome ∈ taken, ∃ result, outcome.result = .ok result ∧ outcome.state.Settled result.verdict := by
  intro warned broken mended taken
  have read : (Extraction.records warned.output).result = .ok (.warning,
      [⟨"a.v".toList, .known 1, .known 2, "x\n * y".toList, warned.output⟩,
        ⟨"b.v".toList, .known 3, .known 4, ['z'], warned.output⟩]) := by decide +kernel
  have answered : ∀ outcome ∈ taken, outcome.result.isOk := by decide +kernel
  obtain ⟨shaped, _, settled⟩ := settled_history
  exact ⟨⟨_, read, shaped _ _ _ read⟩, by decide +kernel, by decide +kernel, settled _ _ answered⟩

end Lint

end VDiagnostics
