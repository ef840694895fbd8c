import VDiagnostics.Fault

/-! Operations leave a trace and end with an answer or a fault. The trace of what happened before a
fault stands, and so does the state that it left. -/

namespace VDiagnostics

structure Traced (ε α : Type) where
  trace : List ε
  result : Except Fault α

namespace Traced

variable {ε δ α β : Type}

def answer (value : α) : Traced ε α :=
  ⟨[], .ok value⟩

def note (event : ε) (value : α) : Traced ε α :=
  ⟨[event], .ok value⟩

def fail (fault : Fault) : Traced ε α :=
  ⟨[], .error fault⟩

def ofExcept (result : Except Fault α) : Traced ε α :=
  ⟨[], result⟩

def map (f : α → β) (traced : Traced ε α) : Traced ε β :=
  ⟨traced.trace, traced.result.map f⟩

/-- The next operation runs only after an answer, and its trace comes after what is there. -/
def andThen (traced : Traced ε α) (next : α → Traced ε β) : Traced ε β :=
  match traced.result with
  | .ok value => ⟨traced.trace ++ (next value).trace, (next value).result⟩
  | .error fault => ⟨traced.trace, .error fault⟩

/-- Goes through a list from the left and stops at the first fault. -/
def fold (step : β → α → Traced ε β) : β → List α → Traced ε β
  | state, [] => answer state
  | state, item :: rest => (step state item).andThen fun next => fold step next rest

def mapTrace (f : ε → δ) (traced : Traced ε α) : Traced δ α :=
  ⟨traced.trace.map f, traced.result⟩

@[simp] theorem answer_andThen (value : α) (next : α → Traced ε β) :
    (answer value : Traced ε α).andThen next = next value := rfl

@[simp] theorem fail_andThen (fault : Fault) (next : α → Traced ε β) :
    (fail fault : Traced ε α).andThen next = fail fault := rfl

@[simp] theorem andThen_answer (traced : Traced ε α) : traced.andThen answer = traced := by
  obtain ⟨trace, result⟩ := traced
  cases result <;> simp [andThen, answer]

theorem andThen_assoc {γ : Type} (traced : Traced ε α) (first : α → Traced ε β)
    (second : β → Traced ε γ) :
    (traced.andThen first).andThen second =
      traced.andThen fun value => (first value).andThen second := by
  obtain ⟨trace, result⟩ := traced
  cases result with
  | error fault => rfl
  | ok value =>
    simp only [andThen]
    cases (first value).result <;> simp

theorem fold_append (step : β → α → Traced ε β) (state : β) (front back : List α) :
    fold step state (front ++ back) =
      (fold step state front).andThen fun next => fold step next back := by
  induction front generalizing state with
  | nil => simp [fold]
  | cons item rest ih => simp [fold, andThen_assoc, ih]

@[simp] theorem map_answer (f : α → β) (value : α) :
    (answer value : Traced ε α).map f = answer (f value) := rfl

theorem map_map {γ : Type} (traced : Traced ε α) (first : α → β) (second : β → γ) :
    (traced.map first).map second = traced.map fun value => second (first value) := by
  obtain ⟨trace, result⟩ := traced
  cases result <;> rfl

@[simp] theorem map_result (f : α → β) (traced : Traced ε α) :
    (traced.map f).result = traced.result.map f := rfl

theorem map_andThen {γ : Type} (traced : Traced ε α) (next : α → Traced ε β) (f : β → γ) :
    (traced.andThen next).map f = traced.andThen fun value => (next value).map f := by
  obtain ⟨trace, result⟩ := traced
  cases result <;> rfl

theorem andThen_map {γ : Type} (traced : Traced ε α) (f : α → β) (next : β → Traced ε γ) :
    (traced.map f).andThen next = traced.andThen fun value => next (f value) := by
  obtain ⟨trace, result⟩ := traced
  cases result <;> rfl

/-- Where a step respects a view of the state, so does a whole run. -/
theorem fold_map {σ τ : Type} {step : σ → α → Traced ε σ} {other : τ → α → Traced ε τ} {view : σ → τ}
    (respects : ∀ state item, (step state item).map view = other (view state) item) (state : σ)
    (items : List α) : (fold step state items).map view = fold other (view state) items := by
  induction items generalizing state with
  | nil => rfl
  | cons item rest ih =>
    rw [fold, map_andThen, fold, ← respects state item, andThen_map]
    congr 1
    funext next
    exact ih next

theorem andThen_result (traced : Traced ε α) (next : α → Traced ε β) :
    (traced.andThen next).result = traced.result.bind fun value => (next value).result := by
  obtain ⟨trace, result⟩ := traced
  cases result <;> rfl

theorem andThen_of_ok {traced : Traced ε α} {value : α} (answered : traced.result = .ok value)
    (next : α → Traced ε β) : traced.andThen next = ⟨traced.trace ++ (next value).trace, (next value).result⟩ := by
  rw [andThen, answered]

theorem andThen_result_ok {traced : Traced ε α} {next : α → Traced ε β} {value : β}
    (answered : (traced.andThen next).result = .ok value) :
    ∃ middle, traced.result = .ok middle ∧ (next middle).result = .ok value := by
  obtain ⟨trace, result⟩ := traced
  cases result with
  | error fault => cases answered
  | ok middle => exact ⟨middle, rfl, answered⟩

theorem map_result_ok {f : α → β} {traced : Traced ε α} {value : β}
    (answered : (traced.map f).result = .ok value) :
    ∃ before, traced.result = .ok before ∧ f before = value := by
  obtain ⟨trace, result⟩ := traced
  cases result with
  | error fault => cases answered
  | ok before => exact ⟨before, rfl, Except.ok.inj answered⟩

end Traced

/-- A traced operation on a state. The state is there even when the operation ends with a fault. -/
structure Outcome (σ ε α : Type) extends Traced ε α where
  state : σ

namespace Outcome

variable {σ τ ε δ α β : Type}

def map (f : α → β) (outcome : Outcome σ ε α) : Outcome σ ε β :=
  ⟨outcome.toTraced.map f, outcome.state⟩

def await (outcome : Outcome σ ε (Except Fault α)) : Outcome σ ε α :=
  ⟨⟨outcome.trace, outcome.result.bind id⟩, outcome.state⟩

def mapState (f : σ → τ) (outcome : Outcome σ ε α) : Outcome τ ε α :=
  ⟨outcome.toTraced, f outcome.state⟩

def after (events : List ε) (outcome : Outcome σ ε α) : Outcome σ ε α :=
  ⟨⟨events ++ outcome.trace, outcome.result⟩, outcome.state⟩

end Outcome

end VDiagnostics
