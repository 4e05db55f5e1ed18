import DaprHosting.Proofs.ControlPlane.Agreement

/-!
# Transcripts

A transcript is the calls of a run, each with its reply. It is taken by a control plane that writes
down every call and every reply and passes them through: `transcribing_agrees` says that this
changes nothing, and `transcribing_agrees_recording` that the calls are those put on record.
-/

namespace DaprHosting

/-! ## 1. Replies -/

/-- What came back from a call. -/
inductive Reply where
  | found (resource : Resource)
  | absent
  | made (resource : Resource)
  /-- The creation was accepted and nothing came back. -/
  | nothing
  | failed (error : ClientError)

namespace Reply

/-- The reply to a lookup. -/
def ofLookup : Except ClientError Lookup → Reply
  | .ok (.found r) => .found r
  | .ok .absent => .absent
  | .error e => .failed e

/-- The reply to a creation. -/
def ofCreation : Except ClientError (Option Resource) → Reply
  | .ok (some r) => .made r
  | .ok none => .nothing
  | .error e => .failed e

/-- The call failed, or left nothing to go on with. -/
def isFailure : Reply → Bool
  | .failed _ => true
  | .nothing => true
  | _ => false

end Reply

/-! ## 2. Transcripts -/

/-- Calls with their replies, in their order. -/
abbrev Transcript : Type := List (Call × Reply)

/-- The calls alone. -/
def Transcript.calls (t : Transcript) : List Call := t.map Prod.fst

theorem Transcript.calls_append (t t' : Transcript) :
    calls (t ++ t') = t.calls ++ t'.calls :=
  List.map_append

/-- A state with the transcript of the calls so far. -/
structure Transcribed (σ : Type) where
  state : σ
  transcript : Transcript := []

variable {σ : Type}

/-- The action with its call and its reply written down. -/
def Transcribed.call {α : Type} (c : Call) (reply : Except ClientError α → Reply)
    (x : Action σ ClientError α) : Action (Transcribed σ) ClientError α := fun s =>
  ⟨(x s.state).result,
    ⟨(x s.state).state, s.transcript ++ [(c, reply (x s.state).result)]⟩, (x s.state).log⟩

/-- The same control plane, which keeps a transcript. -/
def ControlPlane.transcribing (p : ControlPlane σ) : ControlPlane (Transcribed σ) where
  environmentId := p.environmentId
  showService group name :=
    Transcribed.call (.showService group name) .ofLookup (p.showService group name)
  createService group environment name payload :=
    Transcribed.call (.createService group environment name payload) .ofCreation
      (p.createService group environment name payload)
  showComponent group environment name :=
    Transcribed.call (.showComponent group environment name) .ofLookup
      (p.showComponent group environment name)
  createComponent group environment name payload :=
    Transcribed.call (.createComponent group environment name payload) .ofCreation
      (p.createComponent group environment name payload)

/-! ## 3. Taking a transcript changes nothing -/

theorem Transcribed.call_agrees {α : Type} (c : Call) (reply : Except ClientError α → Reply)
    (x : Action σ ClientError α) :
    Action.Agrees (fun t s => t.state = s) (Transcribed.call c reply x) x := by
  rintro t _ rfl
  exact ⟨rfl, rfl, rfl⟩

theorem Transcribed.call_agrees_recorded {α : Type} (c : Call)
    (reply : Except ClientError α → Reply) (x : Action σ ClientError α) :
    Action.Agrees (fun t s => t.state = s.state ∧ t.transcript.calls = s.calls)
      (Transcribed.call c reply x) (Recorded.call c x) := by
  rintro ⟨s, t⟩ ⟨_, _⟩ ⟨rfl, rfl⟩
  exact ⟨rfl, rfl, rfl, Transcript.calls_append _ _⟩

/-- Whoever reads only the state cannot tell that a transcript is kept. -/
theorem transcribing_agrees (p : ControlPlane σ) :
    ControlPlane.Agrees (fun t s => t.state = s) p.transcribing p where
  environmentId _ _ := rfl
  showService _ _ := Transcribed.call_agrees _ _ _
  createService _ _ _ _ := Transcribed.call_agrees _ _ _
  showComponent _ _ _ := Transcribed.call_agrees _ _ _
  createComponent _ _ _ _ := Transcribed.call_agrees _ _ _

/-- The calls of the transcript are the calls on record. -/
theorem transcribing_agrees_recording (p : ControlPlane σ) :
    ControlPlane.Agrees (fun t s => t.state = s.state ∧ t.transcript.calls = s.calls)
      p.transcribing p.recording where
  environmentId _ _ := rfl
  showService _ _ := Transcribed.call_agrees_recorded _ _ _
  createService _ _ _ _ := Transcribed.call_agrees_recorded _ _ _
  showComponent _ _ _ := Transcribed.call_agrees_recorded _ _ _
  createComponent _ _ _ _ := Transcribed.call_agrees_recorded _ _ _

end DaprHosting
