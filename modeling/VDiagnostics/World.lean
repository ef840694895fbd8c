import VDiagnostics.Session

/-! A description of the machine in one object: its files, programs and settings file, and what comes
of the processes that will be started on it. -/

namespace VDiagnostics

structure World where
  around : Surroundings
  stored : Settings.Stored
  /-- How many lists and objects of the settings may be open while they are read. -/
  room : Nat
  launches : List Launch

namespace World

/-- The folder that one works in unless another is named. -/
def defaultFolder : Text := "/work".toList

def member (key : String) : Value → Option Value
  | .object entries => Keyed.find? (.ofText key.toList) entries
  | _ => none

def textMember (key : String) (description : Value) : Option Text :=
  (member key description).bind Value.text?

def items : Value → List Value
  | .list items => items
  | _ => []

/-- The entries of an object whose keys are texts. -/
def entriesOf (key : String) (description : Value) : Keyed Value :=
  match member key description with
  | some (.object entries) => entries.filterMap fun (key, value) => key.text?.map fun key => (key, value)
  | _ => []

def filesOf (description : Value) : Files :=
  (entriesOf "fs" description).map fun (folder, names) => (folder, (items names).filterMap Value.text?)

def programsOf (description : Value) : Keyed Text :=
  (entriesOf "which" description).filterMap fun (name, path) =>
    path.text?.map fun path => (name, path)

def launchOf (description : Value) : Launch :=
  match textMember "oserror" description with
  | some reason => .refused reason
  | none =>
    let code := match member "returncode" description with
      | some (.int code) => code
      | _ => 0
    .exited ((textMember "stdout" description).getD []) ((textMember "stderr" description).getD []) code

def bytesOf : Text → List UInt8
  | high :: low :: rest =>
    let digit (c : Char) : Nat := (Json.hexValue? c).getD 0
    UInt8.ofNat (16 * digit high + digit low) :: bytesOf rest
  | _ => []

/-- The settings file is given as text or as bytes, or is a folder. -/
def storedOf (description : Option Value) : Settings.Stored :=
  match description.bind Value.text?, description.bind (textMember "hex") with
  | some contents, _ => .text contents
  | none, some digits => .ofBytes ⟨(bytesOf digits).toArray⟩
  | none, none => if (description.bind (member "dir")).isSome then .folder else .absent

def ofValue (room : Nat) (description : Value) : World where
  around := .ofPrograms ((textMember "pwd" description).getD defaultFolder) (filesOf description)
    (programsOf description) (textMember "makedirs_error" description)
  stored := storedOf (member "config" description)
  room := room
  launches := ((member "runs" description).elim [] items).map launchOf

def session (world : World) (settings : Settings) (root : Text) : Traced Event Session :=
  (Engine.create world.around settings root).map fun engine => ⟨world.around, world.launches, engine⟩

end World

end VDiagnostics
