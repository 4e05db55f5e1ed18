import DaprHosting.Action

/-!
# The operator

Whoever answers questions: a person at a terminal, a script, or nobody. An operator is given by
what each question does on a state `σ`.
-/

namespace DaprHosting

/-- Why a question got no answer. -/
inductive PromptError where
  /-- There is nobody to ask. -/
  | notInteractive
  | terminal (cause : String)
deriving DecidableEq, Repr

/-- What is told of a question that went unanswered. -/
def PromptError.message : PromptError → String
  | .notInteractive =>
    "cannot prompt in a non-interactive session; set skipExistingDaprCheck, or both " ++
    "existingDaprReleaseName and existingDaprReleaseNamespace, in the configuration settings"
  | .terminal cause => "prompt failed: " ++ cause

/-- The two kinds of question: yes or no with a default, and free text, possibly with a hint. -/
structure Operator (σ : Type) where
  confirm : (message : String) → (default : Bool) → Action σ PromptError Bool
  text : (message : String) → (hint : Option String) → Action σ PromptError String

/-- A question as it was asked. -/
inductive Question where
  | confirm (message : String) (default : Bool)
  | text (message : String) (hint : Option String)
deriving DecidableEq, Repr

/-! ## 1. Nobody -/

/-- No operator: every question fails. -/
def Operator.nobody : Operator Unit where
  confirm _ _ := Action.fail .notInteractive
  text _ _ := Action.fail .notInteractive

/-! ## 2. A script -/

/-- An answer of a script. -/
inductive Answer where
  | yesNo (b : Bool)
  | text (s : String)
  | failure (e : PromptError)
  /-- Neither: a question takes what it would take without an answer. -/
  | other
deriving DecidableEq, Repr

/-- A script: the answers still to come, and the questions asked so far. -/
structure Script where
  answers : List Answer
  asked : List Question := []

/-- A question put on record and the next answer taken off the script. -/
def Script.ask (s : Script) (q : Question) : Answer × Script :=
  match s.answers with
  | [] => (.other, { s with asked := s.asked ++ [q] })
  | a :: rest => (a, ⟨rest, s.asked ++ [q]⟩)

/-- The operator who reads from a script. An answer of the wrong kind, or none, means the default
    of a yes-or-no question and the empty text. -/
def Operator.scripted : Operator Script where
  confirm message default := fun s =>
    match s.ask (.confirm message default) with
    | (.failure e, s) => ⟨.error e, s, []⟩
    | (.yesNo b, s) => ⟨.ok b, s, []⟩
    | (_, s) => ⟨.ok default, s, []⟩
  text message hint := fun s =>
    match s.ask (.text message hint) with
    | (.failure e, s) => ⟨.error e, s, []⟩
    | (.text t, s) => ⟨.ok t, s, []⟩
    | (_, s) => ⟨.ok "", s, []⟩

end DaprHosting
