import DaprHosting.Proofs.Provision.StepTranscript

/-!
# The client error behind a failed run

An error of provisioning may have a client error in it, from a lookup or from a creation. By
`failed_call_iff` it is there exactly when some call of the run failed with it: none is lost on its
way out, none is made up, and none is changed.
-/

namespace DaprHosting.Provision

/-- **The client error in an error of provisioning**, however deep it is wrapped. -/
def Error.cause? : Error → Option ClientError
  | .lookup _ _ e => some e
  | .serviceCreation _ _ (.client e) => some e
  | .componentCreation _ _ (.client e) => some e
  | _ => none

/-- Some call of the transcript failed with the client error. -/
def FailedCall (t : Transcript) (e : ClientError) : Prop := ∃ call, (call, .failed e) ∈ t

/-- The result is an error with this client error in it. -/
def CausedBy {α : Type} (result : Except Error α) (e : ClientError) : Prop :=
  ∃ error, result = .error error ∧ error.cause? = some e

variable {σ : Type}

theorem failedCall_append {t t' : Transcript} {e : ClientError} :
    FailedCall (t ++ t') e ↔ FailedCall t e ∨ FailedCall t' e := by
  simp only [FailedCall, List.mem_append, exists_or]

/-- **A step ends with the client error that one of its calls failed with.** -/
theorem StepTranscript.failedCall_iff {look make : Call} {lost : ClientError → Error}
    {failed : CreationFault → Error} {t : Transcript} {res : Except Error Resource}
    (h : StepTranscript look make lost failed t res) (hlost : ∀ e, (lost e).cause? = some e)
    (hfailed : ∀ e, (failed (.client e)).cause? = some e)
    (hempty : (failed .emptyResult).cause? = none) (e : ClientError) :
    FailedCall t e ↔ CausedBy res e := by
  cases h with
  | lookupFailed e' => simp [FailedCall, CausedBy, hlost, eq_comm]
  | found r => simp [FailedCall, CausedBy]
  | absent a =>
    rcases a with e' | _ | r <;>
      simp [FailedCall, CausedBy, creationResult, Reply.ofCreation, hfailed, hempty, eq_comm]

/-- That a resource has no id is nobody's failure. -/
theorem causedBy_identified {missing : Error} {res : Except Error Resource} {e : ClientError}
    (h : missing.cause? = none) : CausedBy (identified missing res) e ↔ CausedBy res e := by
  constructor
  · rintro ⟨error, herror, hcause⟩
    rcases identified_eq_error_iff.mp herror with hres | ⟨r, -, -, rfl⟩
    · exact ⟨error, hres, hcause⟩
    · rw [h] at hcause
      cases hcause
  · rintro ⟨error, hres, hcause⟩
    exact ⟨error, identified_eq_error_iff.mpr (.inl hres), hcause⟩

theorem causedBy_error {α : Type} {error : Error} {e : ClientError} :
    CausedBy (.error error : Except Error α) e ↔ error.cause? = some e := by
  simp [CausedBy]

theorem causedBy_map {α β : Type} {res : Except Error α} {f : α → β} {e : ClientError} :
    CausedBy (res.map f) e ↔ CausedBy res e := by
  cases res <;> simp [CausedBy, Except.map]

theorem not_causedBy_ok {α : Type} {res : Except Error α} {a : α} {e : ClientError}
    (h : res = .ok a) : ¬ CausedBy res e := by
  rintro ⟨error, herror, -⟩
  rw [h] at herror
  cases herror

/-- **A run fails because of a client error exactly when one of its calls failed with it.** -/
theorem failed_call_iff (plane : ControlPlane σ) (location : Option String)
    (component : ComponentKind) (service : ServiceKind) (place : Place) (s : σ) (e : ClientError) :
    FailedCall
        (provision plane.transcribing location component service place ⟨s, []⟩).state.transcript e ↔
      CausedBy (provision plane location component service place s).result e := by
  obtain ⟨hres, -, -⟩ :=
    provision_agrees (transcribing_agrees plane) location component service place ⟨s, []⟩ s rfl
  rw [← hres]
  have h := provision_course plane.transcribing location component service place ⟨s, []⟩
  generalize (provision plane.transcribing location component service place ⟨s, []⟩).result = out,
    (provision plane.transcribing location component service place ⟨s, []⟩).state = left at h ⊢
  cases h with
  | refused hc => simp [FailedCall, CausedBy, Error.cause?]
  | stopped hc hs he =>
    obtain ⟨ts, ht, hs⟩ := hs.stepTranscript
    have hstep := hs.failedCall_iff (fun _ => rfl) (fun _ => rfl) rfl e
    have hmissing : (Error.missingServiceId service.serviceName).cause? = none := rfl
    rw [← causedBy_identified hmissing, he, causedBy_error] at hstep
    rwa [ht, List.nil_append, causedBy_error]
  | wentOn hc hs hi hk =>
    obtain ⟨ts, ht, hs⟩ := hs.stepTranscript
    obtain ⟨tc, ht', hk⟩ := hk.stepTranscript
    obtain ⟨r, hr, -⟩ := identified_eq_ok_iff.mp hi
    have hservice : ¬ FailedCall ts e := fun h =>
      not_causedBy_ok hr ((hs.failedCall_iff (fun _ => rfl) (fun _ => rfl) rfl e).mp h)
    rw [ht', ht, List.nil_append, failedCall_append, or_iff_right hservice, causedBy_map,
      causedBy_identified rfl]
    exact hk.failedCall_iff (fun _ => rfl) (fun _ => rfl) rfl e

end DaprHosting.Provision
