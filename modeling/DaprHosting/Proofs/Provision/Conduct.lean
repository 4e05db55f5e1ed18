import DaprHosting.Proofs.Provision.StepTranscript

/-!
# Created only when absent

`Conduct` says of a transcript and a result what provisioning promises: which calls are made and in
which order, what is submitted, and which result they lead to. `provision_keeps_conduct` says that
every run over every control plane keeps the promise, whatever the calls reply.

The transcript of a run is that of its service step, followed by that of its component step when
the service has an id; what is known of each step is carried over to the two in a row.
-/

namespace DaprHosting.Provision

variable {σ : Type}

/-! ## 1. What is promised -/

section Promise

/-- The call that looks up the service. -/
abbrev lookService (service : ServiceKind) (place : Place) : Call :=
  .showService place.group service.serviceName

/-- The call that creates it. -/
abbrev makeService (service : ServiceKind) (place : Place) (p : ServicePayload) : Call :=
  .createService place.group place.environment service.serviceName p

/-- The call that looks up the component. -/
abbrev lookComponent (component : ComponentKind) (service : ServiceKind) (place : Place) : Call :=
  .showComponent place.group place.environment (component.componentName service)

/-- The call that creates it. -/
abbrev makeComponent (component : ComponentKind) (service : ServiceKind) (place : Place)
    (p : ComponentPayload) : Call :=
  .createComponent place.group place.environment (component.componentName service) p

variable (component : ComponentKind) (service : ServiceKind) (place : Place) (t : Transcript)

/-- The service was found or created, as this resource. -/
abbrev ServiceThere : Resource → Prop :=
  There (lookService service place) (makeService service place) t

/-- The component was found or created, as this resource. -/
abbrev ComponentThere : Resource → Prop :=
  There (lookComponent component service place) (makeComponent component service place) t

/-- **Why a run fails**, read off its transcript. -/
inductive RunFault : Error → Prop where
  | unsupported (h : component.supports service = false) :
      RunFault (.unsupportedBinding component service)
  | service {e : Error}
      (h : Fault (lookService service place) (makeService service place) t
        (.lookup .service service.serviceName) (.serviceCreation service.serviceName service)
        (.missingServiceId service.serviceName) e) : RunFault e
  | component {e : Error}
      (h : Fault (lookComponent component service place) (makeComponent component service place) t
        (.lookup .component (component.componentName service))
        (.componentCreation (component.componentName service) (component.daprType service))
        (.missingComponentId (component.componentName service)) e) : RunFault e

/-- **What provisioning promises** of its calls and its result. -/
structure Conduct (location : Option String) (environmentId : String)
    (result : Except Error Provisioned) : Prop where
  /-- A pair that does not fit makes no call. -/
  refused : component.supports service = false → t = []
  /-- Any other looks the service up first. -/
  opened : component.supports service = true →
    ∃ reply rest, t = (lookService service place, reply) :: rest
  /-- Each call at most once, in this order, with these names and payloads. -/
  ordered : ∃ serviceId, t.calls.Sublist
    [lookService service place, makeService service place ⟨location, environmentId, service⟩,
      lookComponent component service place,
      makeComponent component service place
        (.of component service ⟨service.serviceName, serviceId⟩)]
  /-- The service is created exactly when its lookup denied it. -/
  serviceCreated :
    (∃ p, makeService service place p ∈ t.calls) ↔ (lookService service place, .absent) ∈ t
  /-- The component is looked up exactly when there is a service with an id. -/
  componentShown :
    lookComponent component service place ∈ t.calls ↔
      ∃ r id, ServiceThere service place t r ∧ HasId r id
  /-- The component is created exactly when its lookup denied it. -/
  componentCreated :
    (∃ p, makeComponent component service place p ∈ t.calls) ↔
      (lookComponent component service place, .absent) ∈ t
  /-- It is bound to the service that is there, by name and id. -/
  bound : ∀ p, makeComponent component service place p ∈ t.calls →
    ∃ r id, ServiceThere service place t r ∧ HasId r id ∧
      p = .of component service ⟨service.serviceName, id⟩
  /-- Nothing follows a call that failed. -/
  ended : ∀ before x after, t = before ++ x :: after → x.2.isFailure = true → after = []
  /-- Success carries the ids of both resources. -/
  succeeded : ∀ ids, result = .ok ids ↔
    (∃ r, ServiceThere service place t r ∧ HasId r ids.serviceId) ∧
      ∃ r, ComponentThere component service place t r ∧ HasId r ids.componentId
  /-- Failure tells what went wrong. -/
  failed : ∀ e, result = .error e ↔ RunFault component service place t e

end Promise

/-! ## 2. Two steps in a row -/

/-- The call belongs to the service step. -/
def ofService : Call → Bool
  | .showService .. => true
  | .createService .. => true
  | _ => false

section Parts

variable {component : ComponentKind} {service : ServiceKind} {place : Place} {ts tc : Transcript}

/-- What belongs to the service step stands in the first part. -/
theorem sameStep_left (hc : ∀ c ∈ tc.calls, ofService c = false) :
    SameStep (lookService service place) (makeService service place) (ts ++ tc) ts := by
  have hn : ∀ c reply, ofService c = true → (c, reply) ∉ tc := by
    intro c reply h hx
    rw [hc c (mem_calls_iff.mpr ⟨reply, hx⟩)] at h
    cases h
  exact ⟨fun reply => by simp [hn (lookService service place) reply rfl],
    fun p reply => by simp [hn (makeService service place p) reply rfl]⟩

/-- What belongs to the component step stands in the second. -/
theorem sameStep_right (hs : ∀ c ∈ ts.calls, ofService c = true) :
    SameStep (lookComponent component service place) (makeComponent component service place)
      (ts ++ tc) tc := by
  have hn : ∀ c reply, ofService c = false → (c, reply) ∉ ts := by
    intro c reply h hx
    rw [hs c (mem_calls_iff.mpr ⟨reply, hx⟩)] at h
    cases h
  exact ⟨fun reply => by simp [hn (lookComponent component service place) reply rfl],
    fun p reply => by simp [hn (makeComponent component service place p) reply rfl]⟩

end Parts

/-- Of the calls of a transcript only the last can have failed: nothing follows a failure. -/
theorem ended_of_pairwise {t : Transcript}
    (h : t.Pairwise fun x _ => x.2.isFailure = false) (before : Transcript) (x : Call × Reply)
    (after : Transcript) (ht : t = before ++ x :: after) (hx : x.2.isFailure = true) :
    after = [] := by
  subst ht
  obtain ⟨-, h, -⟩ := List.pairwise_append.mp h
  obtain ⟨h, -⟩ := List.pairwise_cons.mp h
  cases after with
  | nil => rfl
  | cons y after =>
    rw [h y (List.mem_cons_self ..)] at hx
    cases hx

theorem not_fault_nil {π : Type} {look : Call} {make : π → Call} {lost : ClientError → Error}
    {failed : CreationFault → Error} {missing : Error} (e : Error) :
    ¬ Fault look make [] lost failed missing e := by
  intro h
  cases h <;> simp_all [There]

theorem map_eq_error_iff {ε α β : Type} {x : Except ε α} {f : α → β} {e : ε} :
    x.map f = .error e ↔ x = .error e := by
  cases x <;> simp [Except.map]

/-- The transcripts of the service step. -/
abbrev ServiceTranscript (location : Option String) (environmentId : String)
    (service : ServiceKind) (place : Place) : Transcript → Except Error Resource → Prop :=
  StepTranscript (lookService service place)
    (makeService service place ⟨location, environmentId, service⟩)
    (.lookup .service service.serviceName) (.serviceCreation service.serviceName service)

/-- The transcripts of the component step, for a service with the id. -/
abbrev ComponentTranscript (component : ComponentKind) (service : ServiceKind)
    (serviceId : String) (place : Place) : Transcript → Except Error Resource → Prop :=
  StepTranscript (lookComponent component service place)
    (makeComponent component service place (.of component service ⟨service.serviceName, serviceId⟩))
    (.lookup .component (component.componentName service))
    (.componentCreation (component.componentName service) (component.daprType service))

section Run

variable {location : Option String} {environmentId serviceId : String}
  {component : ComponentKind} {service : ServiceKind} {place : Place} {ts tc : Transcript}
  {res res' : Except Error Resource}

theorem makeService_inj (p q : ServicePayload)
    (h : makeService service place p = makeService service place q) : p = q := by
  injection h

theorem makeComponent_inj (p q : ComponentPayload)
    (h : makeComponent component service place p = makeComponent component service place q) :
    p = q := by
  injection h

theorem makeService_ne (p : ServicePayload) :
    makeService service place p ≠ lookService service place :=
  nofun

theorem makeComponent_ne (p : ComponentPayload) :
    makeComponent component service place p ≠ lookComponent component service place :=
  nofun

theorem ofService_of_serviceTranscript
    (hs : ServiceTranscript location environmentId service place ts res) :
    ∀ c ∈ ts.calls, ofService c = true := by
  intro c hc
  rcases hs.mem_calls hc with rfl | rfl <;> rfl

theorem ofService_of_componentTranscript
    (hk : ComponentTranscript component service serviceId place tc res) :
    ∀ c ∈ tc.calls, ofService c = false := by
  intro c hc
  rcases hk.mem_calls hc with rfl | rfl <;> rfl

/-- **A run that is refused keeps the promise.** -/
theorem conduct_of_refused (hc : component.supports service = false) :
    Conduct component service place [] location environmentId
      (.error (.unsupportedBinding component service)) where
  refused _ := rfl
  opened h := by rw [hc] at h; cases h
  ordered := ⟨"", List.nil_sublist _⟩
  serviceCreated := by simp [Transcript.calls]
  componentShown := by simp [Transcript.calls, There]
  componentCreated := by simp [Transcript.calls]
  bound := by simp [Transcript.calls]
  ended before x after h := by simp at h
  succeeded := by simp [There]
  failed e := by
    constructor
    · rintro ⟨⟩
      exact .unsupported hc
    · rintro (_ | ⟨h⟩ | ⟨h⟩)
      · rfl
      · exact absurd h (not_fault_nil _)
      · exact absurd h (not_fault_nil _)

/-- **A run that stops with its service keeps the promise.** -/
theorem conduct_of_stopped {e : Error} (hc : component.supports service = true)
    (hs : ServiceTranscript location environmentId service place ts res)
    (he : identified (.missingServiceId service.serviceName) res = .error e) :
    Conduct component service place ts location environmentId (.error e) := by
  have hn : SameStep (lookComponent component service place)
      (makeComponent component service place) ts [] := by
    rw [← List.append_nil ts]
    exact sameStep_right (ofService_of_serviceTranscript hs)
  have hid : ∀ id, ¬ ∃ r, ServiceThere service place ts r ∧ HasId r id := by
    intro id h
    rw [hs.there_hasId_iff makeService_inj makeService_ne (.missingServiceId service.serviceName),
      he] at h
    cases h
  constructor
  case refused => intro h; rw [hc] at h; cases h
  case opened => exact fun _ => hs.opened
  case ordered => exact ⟨"", hs.calls_sublist.trans (List.sublist_append_left [_, _] [_, _])⟩
  case serviceCreated => exact hs.created_iff makeService_inj makeService_ne
  case componentShown =>
    rw [hn.look_mem_iff]
    exact ⟨nofun, fun ⟨r, id, h⟩ => absurd ⟨r, h⟩ (hid id)⟩
  case componentCreated =>
    rw [hn.look, exists_congr hn.make_mem_iff]
    exact ⟨fun ⟨p, h⟩ => (nomatch h), nofun⟩
  case bound =>
    intro p hp
    rw [hn.make_mem_iff] at hp
    cases hp
  case ended => exact ended_of_pairwise hs.ended
  case succeeded => exact fun ids => ⟨nofun, fun ⟨h, _⟩ => absurd h (hid _)⟩
  case failed =>
    intro e'
    have hf := hs.fault_iff makeService_inj makeService_ne
      (.missingServiceId service.serviceName) e'
    rw [he, Except.error.injEq] at hf
    rw [Except.error.injEq]
    constructor
    · exact fun h => .service (hf.mpr h)
    · rintro (h | h | h)
      · rw [hc] at h; cases h
      · exact hf.mp h
      · exact absurd (hn.fault h) (not_fault_nil _)

/-- **A run that goes on to its component keeps the promise.** -/
theorem conduct_of_wentOn (hc : component.supports service = true)
    (hs : ServiceTranscript location environmentId service place ts res)
    (hi : identified (.missingServiceId service.serviceName) res = .ok serviceId)
    (hk : ComponentTranscript component service serviceId place tc res') :
    Conduct component service place (ts ++ tc) location environmentId
      ((identified (.missingComponentId (component.componentName service)) res').map
        (⟨serviceId, ·⟩)) := by
  have hl : SameStep (lookService service place) (makeService service place) (ts ++ tc) ts :=
    sameStep_left (ofService_of_componentTranscript hk)
  have hr : SameStep (lookComponent component service place)
      (makeComponent component service place) (ts ++ tc) tc :=
    sameStep_right (ofService_of_serviceTranscript hs)
  have hsid : ∀ id, (∃ r, ServiceThere service place (ts ++ tc) r ∧ HasId r id) ↔
      serviceId = id := by
    intro id
    rw [exists_congr fun r => and_congr_left' (hl.there_iff r),
      hs.there_hasId_iff makeService_inj makeService_ne (.missingServiceId service.serviceName),
      hi, Except.ok.injEq]
  have hkid : ∀ id, (∃ r, ComponentThere component service place (ts ++ tc) r ∧ HasId r id) ↔
      identified (.missingComponentId (component.componentName service)) res' = .ok id := by
    intro id
    rw [exists_congr fun r => and_congr_left' (hr.there_iff r),
      hk.there_hasId_iff makeComponent_inj makeComponent_ne]
  constructor
  case refused => intro h; rw [hc] at h; cases h
  case opened =>
    obtain ⟨reply, rest, h⟩ := hs.opened
    exact fun _ => ⟨reply, rest ++ tc, by rw [h, List.cons_append]⟩
  case ordered =>
    refine ⟨serviceId, ?_⟩
    have h := hs.calls_sublist.append hk.calls_sublist
    rwa [← Transcript.calls_append ts tc] at h
  case serviceCreated =>
    rw [hl.look, exists_congr hl.make_mem_iff]
    exact hs.created_iff makeService_inj makeService_ne
  case componentShown =>
    have hmem : lookComponent component service place ∈ tc.calls := by
      obtain ⟨reply, rest, h⟩ := hk.opened
      rw [h]
      exact List.mem_cons_self ..
    rw [hr.look_mem_iff, exists_comm]
    exact ⟨fun _ => ⟨serviceId, (hsid serviceId).mpr rfl⟩, fun _ => hmem⟩
  case componentCreated =>
    rw [hr.look, exists_congr hr.make_mem_iff]
    exact hk.created_iff makeComponent_inj makeComponent_ne
  case bound =>
    intro p hp
    rw [hr.make_mem_iff, mem_calls_iff] at hp
    obtain ⟨reply, hp⟩ := hp
    obtain ⟨r, h, hid⟩ := (hsid serviceId).mpr rfl
    exact ⟨r, serviceId, h, hid, hk.payload_eq makeComponent_inj makeComponent_ne hp⟩
  case ended =>
    obtain ⟨r, hr, -⟩ := identified_eq_ok_iff.mp hi
    refine ended_of_pairwise (List.pairwise_append.mpr ⟨hs.ended, hk.ended, ?_⟩)
    exact fun x hx _ _ => hs.unfailed hr x hx
  case succeeded =>
    rintro ⟨sid, kid⟩
    rw [hsid, hkid]
    cases identified (.missingComponentId (component.componentName service)) res' with
    | error e => exact ⟨nofun, nofun⟩
    | ok id => simp [Except.map]
  case failed =>
    intro e
    have hf := hk.fault_iff makeComponent_inj makeComponent_ne
      (.missingComponentId (component.componentName service)) e
    rw [← hr.fault_iff] at hf
    rw [map_eq_error_iff, ← hf]
    constructor
    · exact .component
    · rintro (h | h | h)
      · rw [hc] at h; cases h
      · rw [hl.fault_iff, hs.fault_iff makeService_inj makeService_ne, hi] at h
        cases h
      · exact h

end Run

/-! ## 3. Every run -/

/-- **Provisioning creates only what is absent.** Over any control plane, whatever its calls come
    to: the calls of a run, as their transcript `t` lists them with the replies, and its result are
    as `Conduct` promises. -/
theorem provision_keeps_conduct (plane : ControlPlane σ) (location : Option String)
    (component : ComponentKind) (service : ServiceKind) (place : Place) (s : σ) :
    ∃ t : Transcript,
      (provision plane.transcribing location component service place ⟨s, []⟩).state =
          ⟨(provision plane location component service place s).state, t⟩ ∧
        (provision plane.recording location component service place ⟨s, []⟩).state.calls = t.calls ∧
        Conduct component service place t location
          (plane.environmentId place.group place.environment)
          (provision plane location component service place s).result := by
  obtain ⟨hres, -, hstate⟩ :=
    provision_agrees (transcribing_agrees plane) location component service place ⟨s, []⟩ s rfl
  obtain ⟨-, -, -, hcalls⟩ :=
    provision_agrees (transcribing_agrees_recording plane) location component service place
      ⟨s, []⟩ ⟨s, []⟩ ⟨rfl, rfl⟩
  refine ⟨_, by rw [← hstate], hcalls.symm, ?_⟩
  rw [← hres]
  have h := provision_course plane.transcribing location component service place ⟨s, []⟩
  generalize (provision plane.transcribing location component service place ⟨s, []⟩).result = out,
    (provision plane.transcribing location component service place ⟨s, []⟩).state = left at h ⊢
  cases h with
  | refused hc => exact conduct_of_refused hc
  | stopped hc hs he =>
    obtain ⟨ts, ht, hs⟩ := hs.stepTranscript
    rw [ht, List.nil_append]
    exact conduct_of_stopped hc hs he
  | wentOn hc hs hi hk =>
    obtain ⟨ts, ht, hs⟩ := hs.stepTranscript
    obtain ⟨tc, ht', hk⟩ := hk.stepTranscript
    rw [ht', ht, List.nil_append]
    exact conduct_of_wentOn hc hs hi hk

end DaprHosting.Provision
