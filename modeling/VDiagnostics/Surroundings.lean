import VDiagnostics.Files
import VDiagnostics.Settings.Value

/-! The machine that the program meets. What it is asked for can come to nothing in two ways: a refusal is
reported by the run that asked, and a fault ends the run. -/

namespace VDiagnostics

inductive Attempt where
  | done
  | refused (reason : Text)
  | failed (fault : Fault)
  deriving DecidableEq

structure Surroundings where
  cwd : Text
  files : Files
  /-- The folder for what is thrown away. -/
  temporary : Except Fault Text
  /-- Looks for the program of a name. -/
  find : Value → Except Fault (Option CodePoints)
  /-- Makes the folder that a file is in. -/
  makeFolder : CodePoints → Attempt
  /-- Why a command cannot even be handed over, to be run in a folder. -/
  objection? : List Value → Text → Option Fault

/-- Some bytes that are no text are known as second halves of pairs, and these are given back as bytes. -/
def CodePoint.isEncodable : CodePoint → Bool
  | char _ => true
  | high _ => false
  | low offset => 0x80 ≤ offset.val && offset.val ≤ 0xff

/-- Why the system cannot be handed a text. -/
def CodePoints.objection? (points : CodePoints) : Option Fault :=
  if !points.all CodePoint.isEncodable then some .unencodable
  else if points.elem (.char '\x00') then some .nullInPath
  else none

/-- The system is handed texts only. -/
def Value.objection? : Value → Option Fault
  | text points => points.objection?
  | _ => some .unusableSetting

/-- A machine with some programs, where folders can be made unless all of them are blocked. -/
def Surroundings.ofPrograms (cwd : Text) (files : Files) (programs : Keyed Text) (blocked : Option Text) :
    Surroundings where
  cwd := cwd
  files := files
  temporary := .ok "/tmp".toList
  find
    | .text name => .ok ((name.text?.bind fun name => Keyed.find? name programs).map .ofText)
    | _ => .error .unusableSetting
  makeFolder file :=
    match file.objection?, blocked with
    | some fault, _ => .failed fault
    | none, some reason => .refused reason
    | none, none => .done
  objection? command folder := (command.findSome? Value.objection?).or (CodePoints.ofText folder).objection?

end VDiagnostics
