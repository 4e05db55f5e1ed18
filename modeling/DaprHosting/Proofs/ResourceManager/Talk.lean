import DaprHosting.Proofs.Provision.StepTranscript
import DaprHosting.Proofs.ResourceManager.Call

/-!
# What provisioning asks a resource manager

A run of provisioning over HTTP makes five requests at most. `Talk` lists requests with their
answers, and `Provisioning` the talks that a run can have: one way for each request that can be the
last. `provision_talk` says that every run over every network has one of them, whatever is answered.

`Placing` and `Serving` are the talks at two points on the way: the service is known to be absent
and its location is known; the service is known to be there, with its id.
-/

namespace DaprHosting.ResourceManager

open Http Provision

/-! ## 1. Requests -/

/-- The requests of provisioning, a creation with the document that it submits. -/
inductive Ask where
  | showService
  | showEnvironment
  | createService (document : Json)
  | showComponent
  | createComponent (document : Json)

/-- Requests with their answers, in their order; no answer is one that was dropped. -/
abbrev Talk : Type := List (Ask × Option Response)

section Talks

variable (m : ResourceManager) (location : Option String) (component : ComponentKind)
  (service : ServiceKind) (place : Place)

/-- The request that is sent. -/
def Ask.request : Ask → Request
  | .showService => ⟨.get, m.serviceUrl place.group service.serviceName, m.token, none⟩
  | .showEnvironment => ⟨.get, m.environmentUrl place.group place.environment, m.token, none⟩
  | .createService document =>
    ⟨.put, m.serviceUrl place.group service.serviceName, m.token, some document⟩
  | .showComponent =>
    ⟨.get, m.componentUrl place.group place.environment (component.componentName service), m.token,
      none⟩
  | .createComponent document =>
    ⟨.put, m.componentUrl place.group place.environment (component.componentName service), m.token,
      some document⟩

/-- The requests of a talk, each with its answer. -/
def exchanges (t : Talk) : List (Request × Option Response) :=
  t.map fun x => (x.1.request m component service place, x.2)

/-- What is submitted to create the service at a location. -/
def serviceDocument (l : String) : Json :=
  (⟨some l, m.environmentId place.group place.environment, service⟩ : ServicePayload).toJson

/-- What is submitted to create the component, for a service with the id. -/
def componentDocument (id : String) : Json :=
  (ComponentPayload.of component service ⟨service.serviceName, id⟩).toJson

/-! ## 2. Talks -/

/-- **The talks after which the service is to be created**, at the location. -/
inductive Placing : Talk → String → Prop where
  | configured {a : Option Response} {l : String} (ha : IsAbsent a) (hl : location = some l) :
      Placing [(.showService, a)] l
  | asked {a b : Option Response} {l : String} (ha : IsAbsent a) (hl : location = none)
      (hb : Locates b l) : Placing [(.showService, a), (.showEnvironment, b)] l

/-- **The talks after which the service is there**, with the id. -/
inductive Serving : Talk → String → Prop where
  | found {a : Option Response} {r : Resource} {id : String} (ha : Carries a r) (hid : HasId r id) :
      Serving [(.showService, a)] id
  | created {t : Talk} {l : String} {a : Option Response} {r : Resource} {id : String}
      (hp : Placing location t l) (ha : Carries a r) (hid : HasId r id) :
      Serving (t ++ [(.createService (serviceDocument m service place l), a)]) id

/-- **The talks of provisioning.** Only the last answer is unknown. -/
inductive Provisioning : Talk → Prop where
  | silent : Provisioning []
  | service (a : Option Response) : Provisioning [(.showService, a)]
  | environment {a : Option Response} (ha : IsAbsent a) (hl : location = none)
      (b : Option Response) : Provisioning [(.showService, a), (.showEnvironment, b)]
  | serviceCreation {t : Talk} {l : String} (hp : Placing location t l) (a : Option Response) :
      Provisioning (t ++ [(.createService (serviceDocument m service place l), a)])
  | component {t : Talk} {id : String} (hs : Serving m location service place t id)
      (a : Option Response) : Provisioning (t ++ [(.showComponent, a)])
  | componentCreation {t : Talk} {id : String} (hs : Serving m location service place t id)
      {a : Option Response} (ha : IsAbsent a) (b : Option Response) :
      Provisioning (t ++ [(.showComponent, a),
        (.createComponent (componentDocument component service id), b)])

end Talks

section Shape

variable {m : ResourceManager} {location : Option String} {component : ComponentKind}
  {service : ServiceKind} {place : Place} {t : Talk} {l id : String}

theorem Placing.provisioning (h : Placing location t l) :
    Provisioning m location component service place t := by
  cases h with
  | configured => exact .service _
  | asked ha hl => exact .environment ha hl _

theorem Serving.provisioning (h : Serving m location service place t id) :
    Provisioning m location component service place t := by
  cases h with
  | found => exact .service _
  | created hp => exact .serviceCreation hp _

end Shape

/-! ## 3. Runs -/

section Runs

variable (m : ResourceManager) (network : Network) (location : Option String)
  (component : ComponentKind) (service : ServiceKind) (place : Place)

/-- **What a part of a run does**: after the talk `t` it has the talk `t'`, takes the wire from `w`
    to `w'`, and may have a service in hand at its end. -/
structure Talked (t : Talk) (w : Wire) (inHand : Resource → Prop) (t' : Talk) (w' : Wire) :
    Prop where
  exchanged : Exchanged network w (exchanges m component service place t') w'
  provisioning : Provisioning m location component service place (t ++ t')
  /-- With a service in hand, that has an id, the talk has come to it. -/
  serving : ∀ r id, inHand r → HasId r id → Serving m location service place (t ++ t') id
  /-- The environment is asked for when it has to be, unless the request cannot be sent. -/
  placed : (Ask.showEnvironment.request m component service place).sendable network →
    location = none → ∀ a, IsAbsent a → t ++ t' ≠ [(.showService, a)]

variable {m network location component service place} {t : Talk} {l : String}

theorem exchanged_one {x : Ask} {w : Wire}
    (hq : (x.request m component service place).sendable network) :
    Exchanged network w (exchanges m component service place [(x, w.answer)])
      (w.send (x.request m component service place)) :=
  .one w hq

/-- A part of a run with what was said before it. -/
theorem Talked.after {w w' w'' : Wire} {inHand : Resource → Prop} {t' t'' : Talk}
    (hw : Exchanged network w (exchanges m component service place t') w')
    (h : Talked m network location component service place (t ++ t') w' inHand t'' w'') :
    Talked m network location component service place t w inHand (t' ++ t'') w'' := by
  obtain ⟨he, hp, hs, hn⟩ := h
  rw [List.append_assoc] at hp hn
  refine ⟨?_, hp, ?_, hn⟩
  · have h := hw.append he
    rwa [exchanges, exchanges, ← List.map_append] at h
  · intro r id hr hid
    rw [← List.append_assoc]
    exact hs r id hr hid

theorem Talked.imp {w w' : Wire} {inHand inHand' : Resource → Prop} {t' : Talk}
    (h : Talked m network location component service place t w inHand t' w')
    (hi : ∀ r, inHand' r → inHand r) :
    Talked m network location component service place t w inHand' t' w' :=
  ⟨h.exchanged, h.provisioning, fun r id hr => h.serving r id (hi r hr), h.placed⟩

section Unplaced

variable {group environment : String} {w : Wire}

theorem createService_run_error (name : String) (kind : ServiceKind) {e : ClientError}
    (h : (m.environmentLocation network group environment w).result = .error e) :
    (m.createService network group environment name
        ⟨none, m.environmentId group environment, kind⟩ w).result = .error e ∧
      (m.createService network group environment name
        ⟨none, m.environmentId group environment, kind⟩ w).state =
          (m.environmentLocation network group environment w).state := by
  unfold createService
  simp only
  rw [Action.bind_run_error h]
  exact ⟨rfl, rfl⟩

/-- A service without a location is created at that of its environment. -/
theorem createService_run_ok (name : String) (kind : ServiceKind) {l : String}
    (h : (m.environmentLocation network group environment w).result = .ok l) :
    (m.createService network group environment name
        ⟨none, m.environmentId group environment, kind⟩ w).result =
          (m.put network (m.serviceUrl group name)
            (⟨some l, m.environmentId group environment, kind⟩ : ServicePayload).toJson
            (m.environmentLocation network group environment w).state).result ∧
      (m.createService network group environment name
        ⟨none, m.environmentId group environment, kind⟩ w).state =
          (m.put network (m.serviceUrl group name)
            (⟨some l, m.environmentId group environment, kind⟩ : ServicePayload).toJson
            (m.environmentLocation network group environment w).state).state := by
  unfold createService
  simp only
  rw [Action.bind_run_ok h]
  simp only [Action.debug, Action.log_bind_run, and_self]

end Unplaced

/-- **The creation of the service, its location known.** -/
theorem put_talked (hp : Placing location t l) (w : Wire) :
    ∃ t', Talked m network location component service place t w
      (fun r => (m.put network (m.serviceUrl place.group service.serviceName)
        (serviceDocument m service place l) w).result = .ok (some r)) t'
      (m.put network (m.serviceUrl place.group service.serviceName)
        (serviceDocument m service place l) w).state := by
  have hlong : ∀ t' : Talk, location = none → ∀ a, t ++ t' ≠ [(.showService, a)] := by
    intro t' hn a h
    cases hp with
    | configured _ hl => rw [hn] at hl; cases hl
    | asked => cases h
  rcases (put_asked m network _ w _).or with ⟨-, ⟨e, he⟩, hw⟩ | ⟨hq, hr, hw⟩
  · refine ⟨[], ?_, ?_, ?_, fun _ hn a _ => hlong [] hn a⟩
    · rw [hw]
      exact .nil w
    · rw [List.append_nil]
      exact hp.provisioning
    · intro r id h
      rw [he] at h
      cases h
  · refine ⟨[(.createService (serviceDocument m service place l), w.answer)], ?_, ?_, ?_,
      fun _ hn a _ => hlong _ hn a⟩
    · rw [hw]
      exact .one w hq
    · exact .serviceCreation hp _
    · intro r id h hid
      rw [hr] at h
      exact .created hp (submitted_eq_made_iff.mp h) hid

/-- **The creation of the service**, once its lookup was answered 404. -/
theorem createService_talked {a : Option Response} (ha : IsAbsent a) (w : Wire) :
    ∃ t', Talked m network location component service place [(.showService, a)] w
      (fun r => (m.createService network place.group place.environment service.serviceName
        ⟨location, m.environmentId place.group place.environment, service⟩ w).result =
          .ok (some r)) t'
      (m.createService network place.group place.environment service.serviceName
        ⟨location, m.environmentId place.group place.environment, service⟩ w).state := by
  cases hl : location with
  | some l => exact put_talked (.configured ha rfl) w
  | none =>
    rcases (environmentLocation_asked m network w place.group place.environment).or with
      ⟨hn, ⟨e, he⟩, hw⟩ | ⟨hq, hr, hw⟩
    · obtain ⟨hr, hw'⟩ := createService_run_error service.serviceName service he
      rw [hr, hw', hw]
      exact ⟨[], .nil w, .service a, fun _ _ h => (nomatch h), fun hs => absurd hs hn⟩
    · have ho : Exchanged network w
          (exchanges m component service place [(.showEnvironment, w.answer)])
          (w.send (Ask.showEnvironment.request m component service place)) := exchanged_one hq
      cases hb : (lookedUp w.answer).bind (located place.group place.environment) with
      | error e =>
        obtain ⟨hr, hw'⟩ := createService_run_error service.serviceName service (hr.trans hb)
        rw [hr, hw', hw]
        exact ⟨[(.showEnvironment, w.answer)], ho, .environment ha rfl _, fun _ _ h => (nomatch h),
          fun _ _ _ _ h => nomatch h⟩
      | ok l =>
        obtain ⟨hr, hw'⟩ := createService_run_ok service.serviceName service (hr.trans hb)
        rw [hr, hw', hw]
        obtain ⟨t', ht'⟩ := put_talked (.asked ha rfl (located_eq_ok_iff.mp hb))
          (w.send (Ask.showEnvironment.request m component service place))
        exact ⟨_, .after ho ht'⟩

section Asked

variable (m : ResourceManager) (network : Network) (component : ComponentKind)
  (service : ServiceKind) (place : Place) (w : Wire)

theorem showService_asked :
    Asked network (Ask.showService.request m component service place) lookedUp w
      ((m.plane network).showService place.group service.serviceName w).result
      ((m.plane network).showService place.group service.serviceName w).state :=
  get_asked m network _ w

theorem showComponent_asked :
    Asked network (Ask.showComponent.request m component service place) lookedUp w
      ((m.plane network).showComponent place.group place.environment
        (component.componentName service) w).result
      ((m.plane network).showComponent place.group place.environment
        (component.componentName service) w).state :=
  get_asked m network _ w

theorem createComponent_asked (payload : ComponentPayload) :
    Asked network ((Ask.createComponent payload.toJson).request m component service place)
      submitted w
      ((m.plane network).createComponent place.group place.environment
        (component.componentName service) payload w).result
      ((m.plane network).createComponent place.group place.environment
        (component.componentName service) payload w).state :=
  put_asked m network _ w _

end Asked

/-- **The service step.** -/
theorem serviceEnsured_talked (component : ComponentKind) {w w' : Wire}
    {res : Except Error Resource}
    (h : ServiceEnsured (m.plane network) location service place w res w') :
    ∃ t, Talked m network location component service place [] w (fun r => res = .ok r) t w' := by
  have hask := (showService_asked m network component service place w).or
  cases h with
  | lookupFailed hl =>
    rcases hask with ⟨-, -, hw⟩ | ⟨hq, hr, hw⟩ <;> rw [hw]
    · exact ⟨[], .nil w, .silent, fun _ _ h => (nomatch h), fun _ _ _ _ h => nomatch h⟩
    · refine ⟨[(.showService, w.answer)], exchanged_one hq, .service _, fun _ _ h => (nomatch h), ?_⟩
      rintro - - a ha ⟨⟩
      rw [hl, lookedUp_eq_absent_iff.mpr ha] at hr
      cases hr
  | @found r hl =>
    rcases hask with ⟨-, ⟨e, he⟩, -⟩ | ⟨hq, hr, hw⟩
    · cases he.symm.trans hl
    · have hc := lookedUp_eq_found_iff.mp (hr.symm.trans hl)
      rw [hw]
      refine ⟨[(.showService, w.answer)], exchanged_one hq, .service _, ?_, ?_⟩
      · rintro _ id ⟨⟩ hid
        exact .found hc hid
      · rintro - - a ha ⟨⟩
        exact hc.not_absent ha
  | absent hl =>
    rcases hask with ⟨-, ⟨e, he⟩, -⟩ | ⟨hq, hr, hw⟩
    · cases he.symm.trans hl
    · have ha := lookedUp_eq_absent_iff.mp (hr.symm.trans hl)
      rw [hw]
      obtain ⟨t', ht'⟩ := createService_talked ha
        (w.send (Ask.showService.request m component service place))
      exact ⟨_, .after (exchanged_one hq) (ht'.imp fun r => creationResult_eq_ok_iff.mp)⟩

/-- A talk that has come to a service is not at its first 404. -/
theorem Serving.ne_absent {id : String} (h : Serving m location service place t id) (t' : Talk)
    {a : Option Response} (ha : IsAbsent a) : t ++ t' ≠ [(.showService, a)] := by
  intro e
  cases h with
  | found hc _ =>
    cases e
    exact hc.not_absent ha
  | created hp _ _ => cases hp <;> cases e

theorem Serving.talked {id : String} (h : Serving m location service place t id) {w w' : Wire}
    {t' : Talk} (he : Exchanged network w (exchanges m component service place t') w')
    (hp : Provisioning m location component service place (t ++ t')) :
    Talked m network location component service place t w (fun _ => False) t' w' :=
  ⟨he, hp, fun _ _ h => h.elim, fun _ _ _ ha => h.ne_absent _ ha⟩

/-- **The component step**, for a service with the id. -/
theorem componentEnsured_talked {id : String} {w w' : Wire} {res : Except Error Resource}
    (hs : Serving m location service place t id)
    (h : ComponentEnsured (m.plane network) component service id place w res w') :
    ∃ t', Talked m network location component service place t w (fun _ => False) t' w' := by
  have hask := (showComponent_asked m network component service place w).or
  have hshown : ∃ t', Talked m network location component service place t w (fun _ => False) t'
      ((m.plane network).showComponent place.group place.environment
        (component.componentName service) w).state := by
    rcases hask with ⟨-, -, hw⟩ | ⟨hq, -, hw⟩ <;> rw [hw]
    · refine ⟨[], hs.talked (.nil w) ?_⟩
      rw [List.append_nil]
      exact hs.provisioning
    · exact ⟨_, hs.talked (exchanged_one hq) (.component hs _)⟩
  cases h with
  | lookupFailed => exact hshown
  | found => exact hshown
  | absent hl =>
    rcases hask with ⟨-, ⟨e, he⟩, -⟩ | ⟨hq, hr, hw⟩
    · cases he.symm.trans hl
    · have ha := lookedUp_eq_absent_iff.mp (hr.symm.trans hl)
      rw [hw]
      rcases (createComponent_asked m network component service place
        (w.send (Ask.showComponent.request m component service place))
        (.of component service ⟨service.serviceName, id⟩)).or with ⟨-, -, hw'⟩ | ⟨hq', -, hw'⟩ <;>
        rw [hw']
      · exact ⟨_, hs.talked (exchanged_one hq) (.component hs _)⟩
      · exact ⟨[(.showComponent, w.answer),
            (.createComponent (componentDocument component service id), _)],
          hs.talked ((exchanged_one hq).append (.one _ hq')) (.componentCreation hs ha _)⟩

/-- **Every run has one of the talks of provisioning**, on every wire. -/
theorem provision_talked (m : ResourceManager) (network : Network) (location : Option String)
    (component : ComponentKind) (service : ServiceKind) (place : Place) (w : Wire) :
    ∃ t, Talked m network location component service place [] w (fun _ => False) t
        (provision (m.plane network) location component service place w).state ∧
      (component.supports service = false → t = []) := by
  have h := provision_course (m.plane network) location component service place w
  generalize (provision (m.plane network) location component service place w).result = out,
    (provision (m.plane network) location component service place w).state = w' at h ⊢
  cases h with
  | refused hc =>
    exact ⟨[], ⟨.nil w, .silent, fun _ _ h => h.elim, fun _ _ _ _ h => nomatch h⟩, fun _ => rfl⟩
  | stopped hc hs he =>
    obtain ⟨t, ht⟩ := serviceEnsured_talked component hs
    exact ⟨t, ht.imp fun _ h => h.elim, fun h => by rw [hc] at h; cases h⟩
  | wentOn hc hs hi hk =>
    obtain ⟨t, ht⟩ := serviceEnsured_talked component hs
    obtain ⟨r, hr, hid⟩ := identified_eq_ok_iff.mp hi
    have hserve := ht.serving r _ hr (Resource.effectiveId_eq_some_iff.mp hid)
    obtain ⟨t', ht'⟩ := componentEnsured_talked hserve hk
    exact ⟨t ++ t', .after ht.exchanged ht', fun h => by rw [hc] at h; cases h⟩

end Runs

end DaprHosting.ResourceManager
