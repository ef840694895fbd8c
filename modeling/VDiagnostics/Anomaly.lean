import VDiagnostics.Text.Quoted

/-! Findings about the compiler's output, and why a run went wrong. Extraction notes them and goes on,
so one bad line does not lose the rest. -/

namespace VDiagnostics

inductive Anomaly where
  /-- A line without the parts that its layout promises. -/
  | malformed (line reason : Text)
  /-- An elaboration line with no diagnostic before it. -/
  | orphan (content : Text)
  /-- Error text that begins like a warning. -/
  | misclassified (text : Text)
  | invocation (text : Text)
  deriving DecidableEq

namespace Anomaly

def name : Anomaly → Text
  | malformed _ _ => "MalformedDiagnosticLine".toList
  | orphan _ => "OrphanContinuation".toList
  | misclassified _ => "MisclassifiedOutput".toList
  | invocation _ => "ProcessInvocationFailure".toList

def message : Anomaly → Text
  | malformed line reason =>
    "Malformed diagnostic line (".toList ++ reason ++ "): ".toList ++ Text.quoted line
  | orphan content =>
    "Continuation line has no preceding record, dropped: ".toList ++ Text.quoted content
  | misclassified text => text
  | invocation text => text

/-- Whether it is about the structure of the output; the other failures end a run. -/
def isExtraction : Anomaly → Bool
  | invocation _ => false
  | _ => true

def report (anomaly : Anomaly) : Text :=
  anomaly.name ++ ": ".toList ++ anomaly.message

def noLocation : Text :=
  "no '.v:' location line".toList

def notNumeric : Text :=
  "non-numeric line or column".toList

def fieldsMissing (expected : Int) (found : Nat) : Text :=
  "expected ".toList ++ Text.ofInt expected ++ " fields, got ".toList ++ Text.ofNat found

end Anomaly

end VDiagnostics
