import DaprHosting.Installation
import DaprHosting.Proofs.Operator.Questions

/-!
# Inquiries

An inquiry is a question with what came of it: whether it failed, and what the operator logged
meanwhile. An operator can be made to write its inquiries down; `interviewing_agrees` and
`build_agrees` say that this changes nothing. `Interview` lists the ways in which asking for a
release can go, and `ask_interview` says that it always goes in one of them, whoever is asked.
-/

namespace DaprHosting

open Log (Event)

variable {σ τ ε α : Type} {R : τ → σ → Prop}

/-! ## 1. Inquiries -/

/-- A question, why it failed if it did, and the events on the way. -/
structure Inquiry where
  question : Question
  failure : Option PromptError
  log : List Event

/-- Why a question failed. -/
def failureOf : Except PromptError α → Option PromptError
  | .ok _ => none
  | .error e => some e

/-- A state with the inquiries so far, in their order. -/
structure Interviewed (σ : Type) where
  state : σ
  inquiries : List Inquiry := []

/-- The action with its question and what came of it written down. -/
def Interviewed.ask (q : Question) (x : Action σ PromptError α) :
    Action (Interviewed σ) PromptError α := fun s =>
  ⟨(x s.state).result,
    ⟨(x s.state).state, s.inquiries ++ [⟨q, failureOf (x s.state).result, (x s.state).log⟩]⟩,
    (x s.state).log⟩

/-- The same operator, who writes its inquiries down. -/
def Operator.interviewing (operator : Operator σ) : Operator (Interviewed σ) where
  confirm message default :=
    Interviewed.ask (.confirm message default) (operator.confirm message default)
  text message hint := Interviewed.ask (.text message hint) (operator.text message hint)

/-- Every question fails, because there is nobody to ask. -/
structure Operator.Silent (operator : Operator σ) : Prop where
  confirm : ∀ message default s,
    (operator.confirm message default s).result = .error .notInteractive
  text : ∀ message hint s, (operator.text message hint s).result = .error .notInteractive

theorem Operator.silent_nobody : Operator.nobody.Silent := ⟨fun _ _ _ => rfl, fun _ _ _ => rfl⟩

/-- Whoever reads only the state cannot tell that inquiries are written down. -/
theorem Operator.interviewing_agrees (operator : Operator σ) :
    Operator.Agrees (fun i s => i.state = s) operator.interviewing operator where
  confirm _ _ := by
    rintro i _ rfl
    exact ⟨rfl, rfl, rfl⟩
  text _ _ := by
    rintro i _ rfl
    exact ⟨rfl, rfl, rfl⟩

/-- Building an installation does not tell operators apart that agree. -/
theorem Installation.build_agrees {o : Operator τ} {o' : Operator σ} (h : Operator.Agrees R o o')
    (request : InstallRequest) : Action.Agrees R (build o request) (build o' request) := by
  unfold build
  by_cases hscope : request.scope = .namespaced
  · rw [if_pos hscope, if_pos hscope]
    exact .fail _
  · rw [if_neg hscope, if_neg hscope]
    refine .bind (Release.resolve_agrees h _ _ _) fun release => ?_
    dsimp only
    split
    · exact .bind (.log _) fun _ => .bind (.log _) fun _ => .pure _
    · exact .bind (.log _) fun _ => .pure _

/-! ## 2. What a run inquires -/

/-- **A run makes these inquiries**, comes to this result and logs this. -/
structure Action.Inquires (x : Action (Interviewed σ) ε α) (s : Interviewed σ) (is : List Inquiry)
    (result : Except ε α) (log : List Event) : Prop where
  inquiries : (x s).state.inquiries = s.inquiries ++ is
  result : (x s).result = result
  log : (x s).log = log

namespace Action.Inquires

variable {β δ : Type} {s : Interviewed σ} {is is' : List Inquiry} {l l' : List Event}

/-- What does not touch the state inquires nothing. -/
theorem quiet {x : Action (Interviewed σ) ε α} (h : (x s).state = s) :
    Inquires x s [] (x s).result (x s).log :=
  ⟨by rw [h, List.append_nil], rfl, rfl⟩

/-- A question is one inquiry: it fails, or it is answered. -/
theorem of_question (q : Question) (x : Action σ PromptError α) (s : Interviewed σ) :
    (∃ e l, Inquires (Interviewed.ask q x) s [⟨q, some e, l⟩] (.error e) l) ∨
      ∃ a l, Inquires (Interviewed.ask q x) s [⟨q, none, l⟩] (.ok a) l := by
  cases h : (x s.state).result with
  | error e =>
    exact .inl ⟨e, (x s.state).log, by simp only [Interviewed.ask, h, failureOf], h, rfl⟩
  | ok a => exact .inr ⟨a, (x s.state).log, by simp only [Interviewed.ask, h, failureOf], h, rfl⟩

theorem mapError {x : Action (Interviewed σ) ε α} {result : Except ε α} (f : ε → δ)
    (h : Inquires x s is result l) : Inquires (x.mapError f) s is (result.mapError f) l :=
  ⟨h.inquiries, congrArg (Except.mapError f) h.result, h.log⟩

/-- **Inquiries add up.** -/
theorem bind {x : Action (Interviewed σ) ε α} {f : α → Action (Interviewed σ) ε β} {a : α}
    {result : Except ε β} (h : Inquires x s is (.ok a) l)
    (hf : Inquires (f a) (x s).state is' result l') :
    Inquires (x >>= f) s (is ++ is') result (l ++ l') := by
  have hrun := Action.bind_run_ok (f := f) h.result
  refine ⟨?_, ?_, ?_⟩
  · rw [hrun, hf.inquiries, h.inquiries, List.append_assoc]
  · rw [hrun, hf.result]
  · rw [hrun, hf.log, h.log]

/-- What asks nothing more adds only its events. -/
theorem bind_quiet {x : Action (Interviewed σ) ε α} {f : α → Action (Interviewed σ) ε β} {a : α}
    {result : Except ε β} (h : Inquires x s is (.ok a) l)
    (hf : Inquires (f a) (x s).state [] result l') : Inquires (x >>= f) s is result (l ++ l') := by
  have hbind := h.bind hf
  rwa [List.append_nil] at hbind

/-- After a failure nothing more is asked. -/
theorem bind_error {x : Action (Interviewed σ) ε α} {f : α → Action (Interviewed σ) ε β} {e : ε}
    (h : Inquires x s is (.error e) l) : Inquires (x >>= f) s is (.error e) l := by
  have hrun := Action.bind_run_error (f := f) h.result
  refine ⟨?_, ?_, ?_⟩
  · rw [hrun, h.inquiries]
  · rw [hrun]
  · rw [hrun, h.log]

end Action.Inquires

/-! ## 3. Interviews -/

namespace Release

/-- **The questions there are**, in their order. -/
def questions : List Question :=
  [.confirm confirmQuestion false, .text nameQuestion (some nameHint), .text namespaceQuestion none]

/-- **How asking for a release can go**, for a requested name and namespace. -/
inductive Interview (name : String) (inNamespace : Option String) :
    List Inquiry → Except PromptError Release → Prop where
  /-- The first question fails, -/
  | unanswered (e : PromptError) (l : List Event) :
      Interview name inNamespace [⟨.confirm confirmQuestion false, some e, l⟩] (.error e)
  /-- or there is no release yet, and it gets what was requested. -/
  | new (l : List Event) :
      Interview name inNamespace [⟨.confirm confirmQuestion false, none, l⟩]
        (.ok ⟨nonBlankOr defaultName name,
          some (nonBlankOr defaultNamespace (inNamespace.getD "")), false⟩)
  /-- Otherwise the second question fails, -/
  | unnamed (e : PromptError) (l l' : List Event) :
      Interview name inNamespace
        [⟨.confirm confirmQuestion false, none, l⟩,
          ⟨.text nameQuestion (some nameHint), some e, l'⟩]
        (.error e)
  /-- or the third does, -/
  | unplaced (e : PromptError) (l l' l'' : List Event) :
      Interview name inNamespace
        [⟨.confirm confirmQuestion false, none, l⟩, ⟨.text nameQuestion (some nameHint), none, l'⟩,
          ⟨.text namespaceQuestion none, some e, l''⟩]
        (.error e)
  /-- or the release is described. -/
  | described (n ns : String) (l l' l'' : List Event) :
      Interview name inNamespace
        [⟨.confirm confirmQuestion false, none, l⟩, ⟨.text nameQuestion (some nameHint), none, l'⟩,
          ⟨.text namespaceQuestion none, none, l''⟩]
        (.ok ⟨nonBlankOr defaultName n, some (nonBlankOr defaultNamespace ns), true⟩)

/-- What the operator logs in an interview. -/
def logOf (is : List Inquiry) : List Event := is.flatMap Inquiry.log

/-- **Asking goes in one of these ways, whoever is asked**, and all that is logged is what the
    operator logs. -/
theorem ask_interview (operator : Operator σ) (name : String) (inNamespace : Option String)
    (s : Interviewed σ) :
    ∃ is result l, Interview name inNamespace is result ∧ l = logOf is ∧
      (ask operator.interviewing name inNamespace).Inquires s is result l := by
  rcases Action.Inquires.of_question (.confirm confirmQuestion false)
    (operator.confirm confirmQuestion false) s with ⟨e, l, hconfirm⟩ | ⟨installed, l, hconfirm⟩
  · exact ⟨_, _, _, .unanswered e l, by simp [logOf], hconfirm.bind_error⟩
  cases installed with
  | false => exact ⟨_, _, _, .new l, by simp [logOf], hconfirm.bind (.quiet rfl)⟩
  | true =>
    rcases Action.Inquires.of_question (.text nameQuestion (some nameHint))
      (operator.text nameQuestion (some nameHint)) _ with ⟨e, l', hname⟩ | ⟨n, l', hname⟩
    · exact ⟨_, _, _, .unnamed e l l', by simp [logOf], hconfirm.bind hname.bind_error⟩
    rcases Action.Inquires.of_question (.text namespaceQuestion none)
      (operator.text namespaceQuestion none) _ with ⟨e, l'', hns⟩ | ⟨ns, l'', hns⟩
    · exact ⟨_, _, _, .unplaced e l l' l'', by simp [logOf],
        hconfirm.bind (hname.bind hns.bind_error)⟩
    · exact ⟨_, _, _, .described n ns l l' l'', by simp [logOf],
        hconfirm.bind (hname.bind (hns.bind (.quiet rfl)))⟩

/-! ## 4. What every interview keeps to -/

namespace Interview

variable {name : String} {inNamespace : Option String} {is : List Inquiry}
  {result : Except PromptError Release}

theorem nonempty (h : Interview name inNamespace is result) : is ≠ [] := by
  cases h <;> exact List.cons_ne_nil _ _

/-- The questions are asked in their order, and none is left out. -/
theorem in_order (h : Interview name inNamespace is result) :
    is.map Inquiry.question <+: questions := by
  cases h with
  | unanswered | new => exact ⟨_, rfl⟩
  | unnamed => exact ⟨_, rfl⟩
  | unplaced | described => exact List.prefix_refl _

/-- All but the last are answered. -/
theorem answered (h : Interview name inNamespace is result) :
    ∀ i ∈ is.dropLast, i.failure = none := by
  cases h <;> simp

/-- The last fails as the whole does, or is answered. -/
theorem last (h : Interview name inNamespace is result) :
    is.getLast?.bind Inquiry.failure = failureOf result := by
  cases h <;> rfl

end Interview

end Release

end DaprHosting
