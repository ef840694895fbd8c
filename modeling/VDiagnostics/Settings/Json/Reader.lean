import VDiagnostics.Settings.Json.Token

/-! Reading the value that a list of tokens writes. The lists and objects that are still open lie on a
stack, and the phase says what may come next. How many of them may be open is up to the machine that reads. -/

namespace VDiagnostics

namespace Json

/-- Why a text is no value. The causes are told apart by their users. -/
inductive Refusal where
  | malformed
  | numeralTooLong (digits : Nat)
  | listTooDeep
  | objectTooDeep
  deriving DecidableEq

/-- A list or object that is still open: its items in reverse, or its entries and the key whose value
is next. -/
inductive Frame where
  | list (reversed : List Value)
  | object (entries : List (CodePoints × Value)) (key : CodePoints)

inductive Phase where
  | value
  | valueOrEnd
  | key
  | keyOrEnd
  | colon
  | afterValue
  | done (value : Value)

structure State where
  frames : List Frame
  phase : Phase

namespace State

def start : State :=
  ⟨[], .value⟩

/-- Puts a complete value where it belongs. A repeated key keeps its first place and its last value. -/
def deliver (value : Value) : List Frame → State
  | [] => ⟨[], .done value⟩
  | .list reversed :: outer => ⟨.list (value :: reversed) :: outer, .afterValue⟩
  | .object entries key :: outer => ⟨.object (Keyed.put key value entries) key :: outer, .afterValue⟩

/-- With room for so many lists and objects that are open, some value begins. -/
def beginValue (room : Nat) (frames : List Frame) : Token → Except Refusal State
  | .scalar value => .ok (deliver value frames)
  | .text value => .ok (deliver (.text value) frames)
  | .openList =>
    if frames.length < room then .ok ⟨.list [] :: frames, .valueOrEnd⟩ else .error .listTooDeep
  | .openObject =>
    if frames.length < room then .ok ⟨.object [] [] :: frames, .keyOrEnd⟩
    else .error .objectTooDeep
  | .longInteger digits => .error (.numeralTooLong digits)
  | _ => .error .malformed

def close : List Frame → Token → Except Refusal State
  | .list reversed :: outer, .closeList => .ok (deliver (.list reversed.reverse) outer)
  | .object entries _ :: outer, .closeObject => .ok (deliver (.object entries) outer)
  | _, _ => .error .malformed

def step (room : Nat) (state : State) (token : Token) : Except Refusal State :=
  match state.phase, state.frames, token with
  | .value, frames, token => beginValue room frames token
  | .valueOrEnd, frames, .closeList => close frames .closeList
  | .valueOrEnd, frames, token => beginValue room frames token
  | .keyOrEnd, frames, .closeObject => close frames .closeObject
  | .keyOrEnd, .object entries _ :: outer, .text key => .ok ⟨.object entries key :: outer, .colon⟩
  | .key, .object entries _ :: outer, .text key => .ok ⟨.object entries key :: outer, .colon⟩
  | .colon, frames, .colon => .ok ⟨frames, .value⟩
  | .afterValue, .list reversed :: outer, .comma => .ok ⟨.list reversed :: outer, .value⟩
  | .afterValue, .object entries key :: outer, .comma => .ok ⟨.object entries key :: outer, .key⟩
  | .afterValue, frames, token => close frames token
  | _, _, _ => .error .malformed

def result (state : State) : Except Refusal Value :=
  match state.phase with
  | .done value => .ok value
  | _ => .error .malformed

end State

def readTokens (room : Nat) (tokens : List Token) : Except Refusal Value :=
  (tokens.foldlM (State.step room) State.start).bind State.result

/-- Reads a text that holds one value and nothing else. -/
def read (room : Nat) (text : Text) : Except Refusal Value :=
  readTokens room (tokens .between text)

end Json

end VDiagnostics
