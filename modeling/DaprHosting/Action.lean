import DaprHosting.Log

/-!
# Actions

An action runs on a state (a control plane, an operator who answers, a network), may fail, and
logs. A failing action keeps the state it has reached and the events it has logged: what happened
before a failure has happened.
-/

namespace DaprHosting

open Log (Event)

/-! ## 1. Outcomes -/

/-- What a run leaves: a result or an error, the state, and the events in their order. -/
structure Outcome (σ ε α : Type) where
  result : Except ε α
  state : σ
  log : List Event

/-- A computation on a state that may fail and logs. -/
def Action (σ ε α : Type) : Type := σ → Outcome σ ε α

namespace Action

variable {σ τ ε δ α β : Type}

/-! ## 2. Sequencing -/

/-- Run the second part on the result of the first, unless the first fails. -/
def andThen (x : Action σ ε α) (f : α → Action σ ε β) : Action σ ε β := fun s =>
  match (x s).result with
  | .ok a => ⟨(f a (x s).state).result, (f a (x s).state).state, (x s).log ++ (f a (x s).state).log⟩
  | .error e => ⟨.error e, (x s).state, (x s).log⟩

instance : Monad (Action σ ε) where
  pure a := fun s => ⟨.ok a, s, []⟩
  bind := andThen

/-- Fail with an error. -/
def fail (e : ε) : Action σ ε α := fun s => ⟨.error e, s, []⟩

/-- A result that is known already. -/
def ofExcept : Except ε α → Action σ ε α
  | .ok a => pure a
  | .error e => fail e

/-- Log one event. -/
def log (e : Event) : Action σ ε Unit := fun s => ⟨.ok (), s, [e]⟩

/-- An event at level `debug`. -/
def debug (message : String) (fields : List (String × Log.Value) := []) : Action σ ε Unit :=
  log ⟨.debug, message, fields⟩

/-- An event at level `info`. -/
def info (message : String) (fields : List (String × Log.Value) := []) : Action σ ε Unit :=
  log ⟨.info, message, fields⟩

/-- An event at level `warn`. -/
def warn (message : String) (fields : List (String × Log.Value) := []) : Action σ ε Unit :=
  log ⟨.warn, message, fields⟩

/-- The same action, its error put into words of another kind. -/
def mapError (f : ε → δ) (x : Action σ ε α) : Action σ δ α := fun s =>
  ⟨(x s).result.mapError f, (x s).state, (x s).log⟩

/-- The value of an option; none is an error. -/
def require (e : ε) : Option α → Action σ ε α
  | some a => pure a
  | none => fail e

/-! ## 3. Equations -/

@[simp] theorem pure_run (a : α) (s : σ) : (pure a : Action σ ε α) s = ⟨.ok a, s, []⟩ := rfl

@[simp] theorem fail_run (e : ε) (s : σ) : (fail e : Action σ ε α) s = ⟨.error e, s, []⟩ := rfl

@[simp] theorem log_run (e : Event) (s : σ) : (log e : Action σ ε Unit) s = ⟨.ok (), s, [e]⟩ := rfl

theorem bind_run (x : Action σ ε α) (f : α → Action σ ε β) (s : σ) :
    (x >>= f) s = match (x s).result with
      | .ok a =>
        ⟨(f a (x s).state).result, (f a (x s).state).state, (x s).log ++ (f a (x s).state).log⟩
      | .error e => ⟨.error e, (x s).state, (x s).log⟩ := rfl

theorem bind_run_ok {x : Action σ ε α} {f : α → Action σ ε β} {s : σ} {a : α}
    (h : (x s).result = .ok a) :
    (x >>= f) s =
      ⟨(f a (x s).state).result, (f a (x s).state).state, (x s).log ++ (f a (x s).state).log⟩ := by
  rw [bind_run, h]

theorem bind_run_error {x : Action σ ε α} {f : α → Action σ ε β} {s : σ} {e : ε}
    (h : (x s).result = .error e) : (x >>= f) s = ⟨.error e, (x s).state, (x s).log⟩ := by
  rw [bind_run, h]

/-- What is logged in front of an action changes neither its result nor the state it leaves. -/
@[simp] theorem log_bind_run (e : Event) (f : Unit → Action σ ε β) (s : σ) :
    (log e >>= f) s = ⟨(f () s).result, (f () s).state, e :: (f () s).log⟩ := rfl

/-- Nor does what is logged behind it. -/
theorem bind_log_pure_run (x : Action σ ε α) (e : Event) (s : σ) :
    ((x >>= fun a => log e >>= fun _ => pure a) s).result = (x s).result ∧
      ((x >>= fun a => log e >>= fun _ => pure a) s).state = (x s).state := by
  cases h : (x s).result with
  | ok a => simp [bind_run_ok h]
  | error e' => simp [bind_run_error h]

/-- A sequence fails where its first part does, or else as its second part does. -/
theorem bind_result_eq_error {x : Action σ ε α} {f : α → Action σ ε β} {s : σ} {e : ε} :
    ((x >>= f) s).result = .error e ↔
      (x s).result = .error e ∨
        ∃ a, (x s).result = .ok a ∧ (f a (x s).state).result = .error e := by
  cases h : (x s).result with
  | ok a => simp [bind_run_ok h]
  | error e => simp [bind_run_error h]

@[simp] theorem mapError_run (f : ε → δ) (x : Action σ ε α) (s : σ) :
    x.mapError f s = ⟨(x s).result.mapError f, (x s).state, (x s).log⟩ := rfl

end Action

end DaprHosting
