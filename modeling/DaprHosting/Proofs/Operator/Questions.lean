import DaprHosting.Proofs.ControlPlane.Agreement
import DaprHosting.Release

/-!
# Questions on record

An operator can be made to keep a record of the questions that are put to it. Whoever asks cannot
tell (`resolve_agrees` at `recording_agrees`), and the record only grows: `Grows` is kept by every
sequence of actions, so the first question of an action stays in front of those that follow.
-/

namespace DaprHosting

variable {σ τ ε δ α β : Type} {R : τ → σ → Prop}

/-! ## 1. The record -/

/-- A state with the questions asked so far, in their order. -/
structure Questioned (σ : Type) where
  state : σ
  asked : List Question := []

/-- The action with its question put on record first. -/
def Questioned.ask (q : Question) (x : Action σ ε α) : Action (Questioned σ) ε α := fun s =>
  ⟨(x s.state).result, ⟨(x s.state).state, s.asked ++ [q]⟩, (x s.state).log⟩

/-- The same operator, with a record of its questions. -/
def Operator.recording (operator : Operator σ) : Operator (Questioned σ) where
  confirm message default :=
    Questioned.ask (.confirm message default) (operator.confirm message default)
  text message hint := Questioned.ask (.text message hint) (operator.text message hint)

/-! ## 2. Operators that agree -/

/-- **The operators agree along `R`**: their answers to each question do. -/
structure Operator.Agrees (R : τ → σ → Prop) (o : Operator τ) (o' : Operator σ) : Prop where
  confirm : ∀ message default,
    Action.Agrees R (o.confirm message default) (o'.confirm message default)
  text : ∀ message hint, Action.Agrees R (o.text message hint) (o'.text message hint)

/-- Whoever reads only the state cannot tell that a record is kept. -/
theorem Operator.recording_agrees (operator : Operator σ) :
    Operator.Agrees (fun q s => q.state = s) operator.recording operator where
  confirm _ _ := by
    rintro q _ rfl
    exact ⟨rfl, rfl, rfl⟩
  text _ _ := by
    rintro q _ rfl
    exact ⟨rfl, rfl, rfl⟩

namespace Release

open DaprHosting.Action (Agrees)

variable {o : Operator τ} {o' : Operator σ}

theorem ask_agrees (h : Operator.Agrees R o o') (name : String) (inNamespace : Option String) :
    Agrees R (ask o name inNamespace) (ask o' name inNamespace) := by
  refine .bind (h.confirm _ _) fun b => ?_
  cases b with
  | true => exact .bind (h.text _ _) fun _ => .bind (h.text _ _) fun _ => .pure _
  | false => exact .pure _

/-- Warnings are only logged: nothing else comes of them, on whatever state they are given. -/
theorem warnDiverging_run (release : Release) (name : String) (inNamespace : Option String)
    (s : σ) :
    (warnDiverging release name inNamespace : Action σ ε Unit) s =
      ⟨.ok (), s, ((warnDiverging release name inNamespace : Action Unit Empty Unit) ()).log⟩ := by
  unfold warnDiverging
  cases release.name != name <;> cases namespaceDiverges inNamespace release.inNamespace <;> rfl

theorem warnDiverging_agrees (release : Release) (name : String) (inNamespace : Option String) :
    Agrees R (warnDiverging release name inNamespace : Action τ ε Unit)
      (warnDiverging release name inNamespace : Action σ ε Unit) := by
  intro t s hr
  rw [warnDiverging_run release name inNamespace t, warnDiverging_run release name inNamespace s]
  exact ⟨rfl, rfl, hr⟩

theorem resolve_agrees (h : Operator.Agrees R o o') (name : String)
    (inNamespace : Option String) (settings : Settings) :
    Agrees R (resolve o name inNamespace settings) (resolve o' name inNamespace settings) := by
  unfold resolve
  cases (decide settings).1 with
  | skipped => exact .bind (.log _) fun _ => .pure _
  | existing n ns => exact .bind (warnDiverging_agrees _ _ _) fun _ => .pure _
  | asked =>
    exact .bind ((ask_agrees h _ _).mapError _) fun _ =>
      .bind (warnDiverging_agrees _ _ _) fun _ => .pure _

end Release

/-! ## 3. The record grows -/

/-- **The record only grows.** -/
def Action.Grows (x : Action (Questioned σ) ε α) : Prop := ∀ s, s.asked <+: (x s).state.asked

namespace Action

theorem Grows.pure (a : α) : Grows (pure a : Action (Questioned σ) ε α) :=
  fun _ => List.prefix_refl _

theorem Grows.ask (q : Question) (x : Action σ ε α) : Grows (Questioned.ask q x) :=
  fun _ => List.prefix_append _ _

/-- The first question of a sequence stays in front. -/
theorem asked_bind {x : Action (Questioned σ) ε α} {f : α → Action (Questioned σ) ε β}
    (hf : ∀ a, Grows (f a)) (s : Questioned σ) :
    (x s).state.asked <+: ((x >>= f) s).state.asked := by
  cases hx : (x s).result with
  | error e => exact ⟨[], by rw [List.append_nil, bind_run_error hx]⟩
  | ok a =>
    rw [bind_run_ok hx]
    exact hf a _

theorem Grows.bind {x : Action (Questioned σ) ε α} {f : α → Action (Questioned σ) ε β}
    (h : Grows x) (hf : ∀ a, Grows (f a)) : Grows (x >>= f) :=
  fun s => (h s).trans (asked_bind hf s)

end Action

end DaprHosting
