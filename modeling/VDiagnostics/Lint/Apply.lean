import VDiagnostics.Collection
import VDiagnostics.Journal
import VDiagnostics.Lint.Result
import VDiagnostics.Output.Extraction

/-! A run replaces the whole collection, since a compile unit spans several files and any of them may
have been mended. The collection is cleared before the output is read. -/

namespace VDiagnostics

namespace Lint

open Journal (Entry)

def store (collection : Collection) (diagnostic : Diagnostic) : Except Fault Collection :=
  match diagnostic.severity with
  | .error => collection.set diagnostic.file [diagnostic]
  | .warning => collection.append diagnostic.file diagnostic

/-- Stores the records of an output, each at its place. Only the error layout reports errors. -/
def storeAll (collection : Collection) (document cwd output : Text) (format : Format)
    (records : List Record) : Outcome Collection Entry Result :=
  match format with
  | .clean =>
    match collection.delete document with
    | .error fault => ⟨.fail fault, collection⟩
    | .ok emptied =>
      ⟨.note (.clean document) ⟨document, .success, some format, [], output, none⟩, emptied⟩
  | _ =>
    let severity : Severity := if format = .error then .error else .warning
    let diagnostics := records.map (Diagnostic.ofRecord cwd severity)
    match diagnostics.foldlM store collection with
    | .error fault => ⟨.fail fault, collection⟩
    | .ok filled =>
      ⟨.note (.counted document diagnostics.length format)
        ⟨document, .failure, some format, diagnostics, output, none⟩, filled⟩

/-- Replaces the contents of the collection by the diagnostics of an output. -/
def apply (collection : Collection) (document cwd output : Text) :
    Outcome Collection Entry Result :=
  match collection.clear with
  | .error fault => ⟨.fail fault, collection⟩
  | .ok cleared =>
    let read := Extraction.records output
    let anomalies := read.trace.map Entry.anomaly
    match read.result with
    | .error fault => ⟨⟨anomalies, .error fault⟩, cleared⟩
    | .ok (format, records) =>
      (storeAll cleared document cwd output format records).after anomalies

end Lint

end VDiagnostics
