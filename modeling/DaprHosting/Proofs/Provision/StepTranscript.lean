import DaprHosting.Proofs.ControlPlane.Transcript
import DaprHosting.Proofs.Provision.Course

/-!
# The transcript of a step

A step of provisioning looks a resource up by one call, `look`, and may create it by another:
`make p` is the creation that submits the payload `p`. `StepTranscript` lists the transcripts that
such a step can have, each with the result it leads to. What is asked of a transcript (the resource
is `There`, the step is at `Fault`) is put in terms of that result: `there_iff`, `created_iff` and
`fault_iff`.
-/

namespace DaprHosting.Provision

variable {σ : Type}

theorem mem_calls_iff {t : Transcript} {c : Call} : c ∈ t.calls ↔ ∃ reply, (c, reply) ∈ t := by
  unfold Transcript.calls
  rw [List.mem_map]
  constructor
  · rintro ⟨⟨c', reply⟩, h, rfl⟩
    exact ⟨reply, h⟩
  · rintro ⟨reply, h⟩
    exact ⟨_, h, rfl⟩

/-! ## 1. What is read off a transcript -/

/-- The resource has the id: it is written, and it is not empty. -/
def HasId (r : Resource) (id : String) : Prop := r.id = some id ∧ id ≠ ""

theorem effectiveId_eq_none_iff {r : Resource} : r.effectiveId = none ↔ ∀ id, ¬ HasId r id := by
  rw [Option.eq_none_iff_forall_ne_some]
  exact forall_congr' fun id => not_congr Resource.effectiveId_eq_some_iff

section Reading

variable {π : Type} (look : Call) (make : π → Call) (t : Transcript)

/-- The resource was found by `look`, or created with some payload. -/
def There (r : Resource) : Prop := (look, .found r) ∈ t ∨ ∃ p, (make p, .made r) ∈ t

/-- **What went wrong in a step**: a call that failed, a creation with nothing in its answer, or a
    resource without an id. -/
inductive Fault (lost : ClientError → Error) (failed : CreationFault → Error) (missing : Error) :
    Error → Prop where
  | lookup {e : ClientError} (h : (look, .failed e) ∈ t) : Fault lost failed missing (lost e)
  | creation {p : π} {e : ClientError} (h : (make p, .failed e) ∈ t) :
      Fault lost failed missing (failed (.client e))
  | nothing {p : π} (h : (make p, .nothing) ∈ t) :
      Fault lost failed missing (failed .emptyResult)
  | withoutId {r : Resource} (h : There look make t r) (hid : ∀ id, ¬ HasId r id) :
      Fault lost failed missing missing

variable {look make t}

/-- The transcripts agree on the calls of a step. -/
structure SameStep (look : Call) (make : π → Call) (t t' : Transcript) : Prop where
  look : ∀ reply, (look, reply) ∈ t ↔ (look, reply) ∈ t'
  make : ∀ p reply, (make p, reply) ∈ t ↔ (make p, reply) ∈ t'

namespace SameStep

variable {t' : Transcript}

theorem there_iff (h : SameStep look make t t') (r : Resource) :
    There look make t r ↔ There look make t' r :=
  or_congr (h.look _) (exists_congr fun p => h.make p _)

theorem look_mem_iff (h : SameStep look make t t') : look ∈ t.calls ↔ look ∈ t'.calls := by
  rw [mem_calls_iff, mem_calls_iff]
  exact exists_congr h.look

theorem make_mem_iff (h : SameStep look make t t') (p : π) :
    make p ∈ t.calls ↔ make p ∈ t'.calls := by
  rw [mem_calls_iff, mem_calls_iff]
  exact exists_congr (h.make p)

theorem symm (h : SameStep look make t t') : SameStep look make t' t :=
  ⟨fun reply => (h.look reply).symm, fun p reply => (h.make p reply).symm⟩

theorem fault {lost : ClientError → Error} {failed : CreationFault → Error} {missing e : Error}
    (h : SameStep look make t t') (hf : Fault look make t lost failed missing e) :
    Fault look make t' lost failed missing e := by
  cases hf with
  | lookup hc => exact .lookup ((h.look _).mp hc)
  | creation hc => exact .creation ((h.make _ _).mp hc)
  | nothing hc => exact .nothing ((h.make _ _).mp hc)
  | withoutId hr hid => exact .withoutId ((h.there_iff _).mp hr) hid

theorem fault_iff {lost : ClientError → Error} {failed : CreationFault → Error}
    {missing e : Error} (h : SameStep look make t t') :
    Fault look make t lost failed missing e ↔ Fault look make t' lost failed missing e :=
  ⟨h.fault, h.symm.fault⟩

end SameStep

end Reading

/-! ## 2. The transcripts -/

/-- The transcripts of a step that looks a resource up by one call and creates it by another. -/
inductive StepTranscript (look make : Call) (lost : ClientError → Error)
    (failed : CreationFault → Error) : Transcript → Except Error Resource → Prop where
  | lookupFailed (e : ClientError) :
      StepTranscript look make lost failed [(look, .failed e)] (.error (lost e))
  | found (r : Resource) : StepTranscript look make lost failed [(look, .found r)] (.ok r)
  | absent (a : Except ClientError (Option Resource)) :
      StepTranscript look make lost failed [(look, .absent), (make, .ofCreation a)]
        (creationResult failed a)

section Step

variable {look make : Call} {lost : ClientError → Error} {failed : CreationFault → Error}

/-- **A step adds its transcript to what is there already.** -/
theorem Ensured.stepTranscript {showing : Action σ ClientError Lookup}
    {creating : Action σ ClientError (Option Resource)} {s s' : Transcribed σ}
    {res : Except Error Resource}
    (h : Ensured (Transcribed.call look .ofLookup showing)
      (Transcribed.call make .ofCreation creating) lost failed s res s') :
    ∃ t, s'.transcript = s.transcript ++ t ∧ StepTranscript look make lost failed t res := by
  cases h with
  | lookupFailed hl =>
    refine ⟨_, rfl, ?_⟩
    have e : (showing s.state).result = .error _ := hl
    rw [e]
    exact .lookupFailed _
  | found hl =>
    refine ⟨_, rfl, ?_⟩
    have e : (showing s.state).result = .ok (.found _) := hl
    rw [e]
    exact .found _
  | absent hl =>
    refine ⟨[_, _], List.append_assoc _ _ _, ?_⟩
    have e : (showing s.state).result = .ok .absent := hl
    rw [e]
    exact .absent _

namespace StepTranscript

variable {t : Transcript} {res : Except Error Resource}

theorem opened (h : StepTranscript look make lost failed t res) :
    ∃ reply rest, t = (look, reply) :: rest := by
  cases h <;> exact ⟨_, _, rfl⟩

theorem calls_sublist (h : StepTranscript look make lost failed t res) :
    t.calls.Sublist [look, make] := by
  cases h with
  | lookupFailed e => exact List.Sublist.cons_cons _ (List.nil_sublist _)
  | found r => exact List.Sublist.cons_cons _ (List.nil_sublist _)
  | absent a => exact List.Sublist.refl _

theorem mem_calls (h : StepTranscript look make lost failed t res) {c : Call}
    (hc : c ∈ t.calls) : c = look ∨ c = make := by
  have h' := h.calls_sublist.subset hc
  rwa [List.mem_cons, List.mem_singleton] at h'

/-- Only the last call can have failed. -/
theorem ended (h : StepTranscript look make lost failed t res) :
    t.Pairwise fun x _ => x.2.isFailure = false := by
  cases h <;> simp [Reply.isFailure]

/-- A step that ends with a resource has no failure in it. -/
theorem unfailed (h : StepTranscript look make lost failed t res) {r : Resource}
    (hr : res = .ok r) : ∀ x ∈ t, x.2.isFailure = false := by
  cases h with
  | lookupFailed e => cases hr
  | found r' => simp [Reply.isFailure]
  | absent a =>
    rw [creationResult_eq_ok_iff.mp hr]
    simp [Reply.ofCreation, Reply.isFailure]

theorem make_mem_iff (h : StepTranscript look make lost failed t res) (hne : make ≠ look) :
    make ∈ t.calls ↔ (look, .absent) ∈ t := by
  cases h <;> simp [Transcript.calls, hne]

theorem ok_iff (h : StepTranscript look make lost failed t res) (r : Resource) :
    res = .ok r ↔ (look, .found r) ∈ t ∨ (make, .made r) ∈ t := by
  cases h with
  | lookupFailed e => simp
  | found r' => simp [eq_comm]
  | absent a => rcases a with e | _ | r' <;> simp [creationResult, Reply.ofCreation, eq_comm]

theorem error_iff (h : StepTranscript look make lost failed t res) (hne : make ≠ look)
    (e : Error) :
    res = .error e ↔
      (∃ c, (look, .failed c) ∈ t ∧ e = lost c) ∨
        (∃ c, (make, .failed c) ∈ t ∧ e = failed (.client c)) ∨
          (make, .nothing) ∈ t ∧ e = failed .emptyResult := by
  cases h with
  | lookupFailed c => simp [hne.symm, eq_comm]
  | found r => simp
  | absent a =>
    rcases a with c | _ | r <;> simp [creationResult, Reply.ofCreation, hne.symm, eq_comm]

end StepTranscript

end Step

/-! ## 3. Whatever the payload -/

section Family

variable {π : Type} {look : Call} {make : π → Call} {p : π} {lost : ClientError → Error}
  {failed : CreationFault → Error} {t : Transcript} {res : Except Error Resource}

namespace StepTranscript

/-- Only one payload is submitted. -/
theorem payload_eq (h : StepTranscript look (make p) lost failed t res)
    (hm : ∀ q q', make q = make q' → q = q') (hne : ∀ q, make q ≠ look) {q : π} {reply : Reply}
    (hq : (make q, reply) ∈ t) : q = p := by
  rcases h.mem_calls (mem_calls_iff.mpr ⟨reply, hq⟩) with e | e
  · exact absurd e (hne q)
  · exact hm q p e

/-- **The resource that is there is the one the step ends with.** -/
theorem there_iff (h : StepTranscript look (make p) lost failed t res)
    (hm : ∀ q q', make q = make q' → q = q') (hne : ∀ q, make q ≠ look) (r : Resource) :
    There look make t r ↔ res = .ok r := by
  rw [h.ok_iff]
  refine or_congr Iff.rfl ⟨?_, fun h' => ⟨p, h'⟩⟩
  rintro ⟨q, hq⟩
  rwa [h.payload_eq hm hne hq] at hq

/-- **Its id is the one the step, asked for it, ends with.** -/
theorem there_hasId_iff (h : StepTranscript look (make p) lost failed t res)
    (hm : ∀ q q', make q = make q' → q = q') (hne : ∀ q, make q ≠ look) (missing : Error)
    (id : String) :
    (∃ r, There look make t r ∧ HasId r id) ↔ identified missing res = .ok id := by
  rw [identified_eq_ok_iff]
  exact exists_congr fun r =>
    and_congr (h.there_iff hm hne r) Resource.effectiveId_eq_some_iff.symm

/-- **The resource is created exactly when the lookup denied it.** -/
theorem created_iff (h : StepTranscript look (make p) lost failed t res)
    (hm : ∀ q q', make q = make q' → q = q') (hne : ∀ q, make q ≠ look) :
    (∃ q, make q ∈ t.calls) ↔ (look, .absent) ∈ t := by
  rw [← h.make_mem_iff (hne p)]
  refine ⟨?_, fun h' => ⟨p, h'⟩⟩
  rintro ⟨q, hq⟩
  obtain ⟨reply, hq'⟩ := mem_calls_iff.mp hq
  rwa [h.payload_eq hm hne hq'] at hq

/-- **What went wrong is the error that the step, asked for its id, ends with.** -/
theorem fault_iff (h : StepTranscript look (make p) lost failed t res)
    (hm : ∀ q q', make q = make q' → q = q') (hne : ∀ q, make q ≠ look) (missing e : Error) :
    Fault look make t lost failed missing e ↔ identified missing res = .error e := by
  rw [identified_eq_error_iff, h.error_iff (hne p)]
  constructor
  · intro hf
    cases hf with
    | lookup hc => exact .inl (.inl ⟨_, hc, rfl⟩)
    | creation hc =>
      rw [h.payload_eq hm hne hc] at hc
      exact .inl (.inr (.inl ⟨_, hc, rfl⟩))
    | nothing hc =>
      rw [h.payload_eq hm hne hc] at hc
      exact .inl (.inr (.inr ⟨hc, rfl⟩))
    | withoutId hr hid =>
      exact .inr ⟨_, (h.there_iff hm hne _).mp hr, effectiveId_eq_none_iff.mpr hid, rfl⟩
  · rintro ((⟨c, hc, rfl⟩ | ⟨c, hc, rfl⟩ | ⟨hc, rfl⟩) | ⟨r, hr, hid, rfl⟩)
    · exact .lookup hc
    · exact .creation hc
    · exact .nothing hc
    · exact .withoutId ((h.there_iff hm hne r).mpr hr) (effectiveId_eq_none_iff.mp hid)

end StepTranscript

end Family

end DaprHosting.Provision
