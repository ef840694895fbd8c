import VDiagnostics.Logging
import VDiagnostics.Main
import VDiagnostics.Proofs.AnomalyTexts
import VDiagnostics.Proofs.CollectionHistory
import VDiagnostics.Proofs.CompileTargets
import VDiagnostics.Proofs.EngineCoherence
import VDiagnostics.Proofs.ErrorElaboration
import VDiagnostics.Proofs.ErrorRoundTrip
import VDiagnostics.Proofs.FaultedRuns
import VDiagnostics.Proofs.JoinedOutputs
import VDiagnostics.Proofs.LabelledPlaces
import VDiagnostics.Proofs.LayoutAgreement
import VDiagnostics.Proofs.LineSpacing
import VDiagnostics.Proofs.LocatedFiles
import VDiagnostics.Proofs.NumeralGrammar
import VDiagnostics.Proofs.OutputShapes
import VDiagnostics.Proofs.PublishedOutput
import VDiagnostics.Proofs.RawReports
import VDiagnostics.Proofs.ResolvedPaths
import VDiagnostics.Proofs.RunEquality
import VDiagnostics.Proofs.SettingsRoundTrip
import VDiagnostics.Proofs.ShownRows
import VDiagnostics.Proofs.SourceNames
import VDiagnostics.Proofs.Verdicts
import VDiagnostics.Proofs.WarningRoundTrip
