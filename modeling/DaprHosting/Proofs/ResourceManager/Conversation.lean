import DaprHosting.Proofs.ResourceManager.Talk

/-!
# What is sent, and on whose word

`Conversation` says of a talk what keeps cloud resources safe: which requests are sent and in which
order, that nothing is created that was not denied before, where the location of a service and the
id in a component come from, and that a failure is the end. `provision_keeps_conversation` says so
of every run.

Every single request is warranted by what was said before it (`Warranted`, one rule for each kind
of request). That is carried along the talks of provisioning, and what is said of creations is
read off it.
-/

namespace DaprHosting.ResourceManager

open Http Provision

/-! ## 1. What is promised -/

/-- The requests alone. -/
def Talk.asks (t : Talk) : List Ask := t.map Prod.fst

/-- The request was made and answered 404. -/
def Denied (t : Talk) (x : Ask) : Prop := ∃ a, (x, a) ∈ t ∧ IsAbsent a

/-- The answer leaves nothing to go on with: a lookup that tells neither that the resource is
    absent nor what it is, an environment without a location, a creation without a resource. -/
def Ask.Fails : Ask → Option Response → Prop
  | .showService, a => ¬ IsAbsent a ∧ ∀ r, ¬ Carries a r
  | .showEnvironment, a => ∀ l, ¬ Locates a l
  | .createService _, a => ∀ r, ¬ Carries a r
  | .showComponent, a => ¬ IsAbsent a ∧ ∀ r, ¬ Carries a r
  | .createComponent _, a => ∀ r, ¬ Carries a r

/-- The requests of a whole run, from the first to the last. -/
def plan (location : Option String) (serviceAbsent componentAbsent : Bool)
    (service component : Json) : List Ask :=
  .showService ::
    ((if serviceAbsent then
        (if location.isNone then [.showEnvironment] else []) ++ [.createService service]
      else []) ++
      .showComponent :: (if componentAbsent then [.createComponent component] else []))

/-- The service has this id: the answer to its lookup or to its creation says so. -/
def ServiceId (t : Talk) (id : String) : Prop :=
  ∃ x a r, (x, a) ∈ t ∧ (x = .showService ∨ ∃ d, x = .createService d) ∧ Carries a r ∧ HasId r id

/-- The service belongs at this location: it was given, or else the environment tells it. -/
def ServicePlace (location : Option String) (t : Talk) (l : String) : Prop :=
  location = some l ∨ location = none ∧ ∃ a, (.showEnvironment, a) ∈ t ∧ Locates a l

section Promise

variable (m : ResourceManager) (network : Network) (location : Option String)
  (component : ComponentKind) (service : ServiceKind) (place : Place)

/-- **What provisioning promises** of a talk. -/
structure Conversation (t : Talk) : Prop where
  /-- A pair that does not fit sends nothing. -/
  refused : component.supports service = false → t = []
  /-- The requests come in order and none is left out; a resource is created only when it is
      absent. -/
  ordered : ∃ serviceAbsent componentAbsent d d',
    t.asks <+: plan location serviceAbsent componentAbsent d d' ∧
      (serviceAbsent = true ↔ Denied t .showService) ∧
      (componentAbsent = true ↔ Denied t .showComponent)
  /-- The environment is asked for exactly when the service is absent and has no location; a
      request that the network does not carry is not sent. -/
  environmentShown : (∃ a, (.showEnvironment, a) ∈ t) ↔
    Denied t .showService ∧ location = none ∧
      (Ask.showEnvironment.request m component service place).sendable network
  /-- A PUT goes to a URL that was answered 404. -/
  guarded : ∀ before x after, t = before ++ x :: after →
    (x.1.request m component service place).method = .put →
      ∃ y ∈ before, (y.1.request m component service place).method = .get ∧
        (y.1.request m component service place).url = (x.1.request m component service place).url ∧
        IsAbsent y.2
  /-- A service is created with a location and otherwise as its payload says. -/
  located : ∀ before d a after, t = before ++ (.createService d, a) :: after →
    ∃ l others, d = .object (("location", .string l) :: others) ∧
      (⟨location, m.environmentId place.group place.environment, service⟩ :
        ServicePayload).toJson = .object (Json.member? "location" .string location ++ others) ∧
      ServicePlace location before l
  /-- A component is bound to the service that is there. -/
  bound : ∀ before d a after, t = before ++ (.createComponent d, a) :: after →
    ∃ id, d = (ComponentPayload.of component service ⟨service.serviceName, id⟩).toJson ∧
      ServiceId before id
  /-- Nothing is sent after a failure. -/
  ended : ∀ before x after, t = before ++ x :: after → ∀ y ∈ before, ¬ y.1.Fails y.2

/-! ## 2. Warrants -/

/-- **What has to be known before a request is sent.** -/
inductive Warranted (before : Talk) : Ask → Prop where
  | showService : Warranted before .showService
  | showEnvironment (hd : Denied before .showService) (hl : location = none) :
      Warranted before .showEnvironment
  | createService {l : String} (hd : Denied before .showService)
      (hl : ServicePlace location before l) :
      Warranted before (.createService (serviceDocument m service place l))
  | showComponent : Warranted before .showComponent
  | createComponent {id : String} (hd : Denied before .showComponent)
      (hid : ServiceId before id) :
      Warranted before (.createComponent (componentDocument component service id))

/-- Every request of the talk is warranted, and sent when nothing had failed. -/
def Sound (t : Talk) : Prop :=
  ∀ before x after, t = before ++ x :: after →
    Warranted m location component service place before x.1 ∧ ∀ y ∈ before, ¬ y.1.Fails y.2

end Promise

section Soundness

variable {m : ResourceManager} {network : Network} {location : Option String}
  {component : ComponentKind} {service : ServiceKind} {place : Place} {t : Talk} {l id : String}

theorem sound_nil : Sound m location component service place [] := by
  intro before x after h
  cases before <;> cases h

/-- **One more request**: it has to be warranted, and nothing before it may have failed. -/
theorem Sound.snoc (h : Sound m location component service place t) {x : Ask}
    (hx : Warranted m location component service place t x) (hf : ∀ y ∈ t, ¬ y.1.Fails y.2)
    (a : Option Response) : Sound m location component service place (t ++ [(x, a)]) := by
  intro before y after he
  rcases List.eq_nil_or_concat after with rfl | ⟨after, z, rfl⟩
  · obtain ⟨rfl, ⟨⟩⟩ := List.append_inj' he rfl
    exact ⟨hx, hf⟩
  · rw [List.concat_eq_append, ← List.cons_append, ← List.append_assoc] at he
    obtain ⟨rfl, -⟩ := List.append_inj' he rfl
    exact h before y after rfl

/-! ## 3. The talks of provisioning are sound -/

theorem Placing.denied (h : Placing location t l) : Denied t .showService := by
  cases h with
  | @configured a _ ha _ => exact ⟨a, List.mem_cons_self .., ha⟩
  | @asked a _ _ ha _ _ => exact ⟨a, List.mem_cons_self .., ha⟩

theorem Placing.servicePlace (h : Placing location t l) : ServicePlace location t l := by
  cases h with
  | configured _ hl => exact .inl hl
  | @asked _ b _ _ hl hb => exact .inr ⟨hl, b, List.mem_cons_of_mem _ (List.mem_cons_self ..), hb⟩

theorem not_fails_of_absent {a : Option Response} (ha : IsAbsent a) :
    ∀ y ∈ ([(.showService, a)] : Talk), ¬ y.1.Fails y.2 := by
  intro y hy
  rw [List.mem_singleton.mp hy]
  exact fun h => h.1 ha

theorem Placing.unfailing (h : Placing location t l) : ∀ y ∈ t, ¬ y.1.Fails y.2 := by
  cases h with
  | configured ha _ => exact not_fails_of_absent ha
  | asked ha _ hb =>
    intro y hy
    rcases List.mem_cons.mp hy with rfl | hy
    · exact fun h => h.1 ha
    · rw [List.mem_singleton.mp hy]
      exact fun h => h _ hb

theorem Serving.unfailing (h : Serving m location service place t id) :
    ∀ y ∈ t, ¬ y.1.Fails y.2 := by
  cases h with
  | found ha _ =>
    intro y hy
    rw [List.mem_singleton.mp hy]
    exact fun h => h.2 _ ha
  | created hp ha _ =>
    intro y hy
    rcases List.mem_append.mp hy with hy | hy
    · exact hp.unfailing y hy
    · rw [List.mem_singleton.mp hy]
      exact fun h => h _ ha

theorem Serving.serviceId (h : Serving m location service place t id) : ServiceId t id := by
  cases h with
  | found ha hid => exact ⟨_, _, _, List.mem_singleton.mpr rfl, .inl rfl, ha, hid⟩
  | created hp ha hid =>
    exact ⟨_, _, _, List.mem_append_right _ (List.mem_singleton.mpr rfl), .inr ⟨_, rfl⟩, ha, hid⟩

theorem sound_service (a : Option Response) :
    Sound m location component service place [(.showService, a)] :=
  sound_nil.snoc .showService (fun _ h => nomatch h) a

theorem sound_environment {a : Option Response} (ha : IsAbsent a) (hl : location = none)
    (b : Option Response) :
    Sound m location component service place [(.showService, a), (.showEnvironment, b)] :=
  (sound_service a).snoc (.showEnvironment ⟨a, List.mem_singleton.mpr rfl, ha⟩ hl)
    (not_fails_of_absent ha) b

theorem Placing.sound (h : Placing location t l) : Sound m location component service place t := by
  cases h with
  | configured => exact sound_service _
  | asked ha hl _ => exact sound_environment ha hl _

theorem Placing.sound_creation (h : Placing location t l) (a : Option Response) :
    Sound m location component service place
      (t ++ [(.createService (serviceDocument m service place l), a)]) :=
  h.sound.snoc (.createService h.denied h.servicePlace) h.unfailing a

theorem Serving.sound (h : Serving m location service place t id) :
    Sound m location component service place t := by
  cases h with
  | found => exact sound_service _
  | created hp => exact hp.sound_creation _

/-- **Every talk of provisioning is sound.** -/
theorem Provisioning.sound (h : Provisioning m location component service place t) :
    Sound m location component service place t := by
  cases h with
  | silent => exact sound_nil
  | service a => exact sound_service a
  | environment ha hl b => exact sound_environment ha hl b
  | serviceCreation hp a => exact hp.sound_creation a
  | component hs a => exact hs.sound.snoc .showComponent hs.unfailing a
  | @componentCreation t id hs a ha b =>
    have h : Sound m location component service place (t ++ [(.showComponent, a)]) :=
      hs.sound.snoc .showComponent hs.unfailing a
    rw [← List.singleton_append, ← List.append_assoc]
    refine h.snoc (.createComponent ?_ ?_) ?_ b
    · exact ⟨a, List.mem_append_right _ (List.mem_singleton.mpr rfl), ha⟩
    · obtain ⟨x, a, r, hx, h⟩ := hs.serviceId
      exact ⟨x, a, r, List.mem_append_left _ hx, h⟩
    · intro y hy
      rcases List.mem_append.mp hy with hy | hy
      · exact hs.unfailing y hy
      · rw [List.mem_singleton.mp hy]
        exact fun h => h.1 ha

/-! ## 4. What soundness gives -/

theorem Sound.ended (h : Sound m location component service place t) (before : Talk)
    (x : Ask × Option Response) (after : Talk) (ht : t = before ++ x :: after) :
    ∀ y ∈ before, ¬ y.1.Fails y.2 :=
  (h before x after ht).2

/-- A PUT has the URL of the GET that is known to have been answered 404. -/
theorem Sound.guarded (h : Sound m location component service place t) (before : Talk)
    (x : Ask × Option Response) (after : Talk) (ht : t = before ++ x :: after)
    (hx : (x.1.request m component service place).method = .put) :
    ∃ y ∈ before, (y.1.request m component service place).method = .get ∧
      (y.1.request m component service place).url = (x.1.request m component service place).url ∧
      IsAbsent y.2 := by
  obtain ⟨x, a⟩ := x
  have hw := (h before (x, a) after ht).1
  cases hw with
  | showService => cases hx
  | showEnvironment => cases hx
  | createService hd _ =>
    obtain ⟨b, hb, ha⟩ := hd
    exact ⟨_, hb, rfl, rfl, ha⟩
  | showComponent => cases hx
  | createComponent hd _ =>
    obtain ⟨b, hb, ha⟩ := hd
    exact ⟨_, hb, rfl, rfl, ha⟩

theorem Sound.located (h : Sound m location component service place t) (before : Talk) (d : Json)
    (a : Option Response) (after : Talk) (ht : t = before ++ (.createService d, a) :: after) :
    ∃ l others, d = .object (("location", .string l) :: others) ∧
      (⟨location, m.environmentId place.group place.environment, service⟩ :
        ServicePayload).toJson = .object (Json.member? "location" .string location ++ others) ∧
      ServicePlace location before l := by
  have hw := (h before _ after ht).1
  cases hw with
  | createService _ hl => exact ⟨_, _, rfl, rfl, hl⟩

theorem Sound.bound (h : Sound m location component service place t) (before : Talk) (d : Json)
    (a : Option Response) (after : Talk) (ht : t = before ++ (.createComponent d, a) :: after) :
    ∃ id, d = (ComponentPayload.of component service ⟨service.serviceName, id⟩).toJson ∧
      ServiceId before id := by
  have hw := (h before _ after ht).1
  cases hw with
  | createComponent _ hid => exact ⟨_, rfl, hid⟩

/-! ## 5. The order of the requests -/

theorem asks_append (t t' : Talk) : (t ++ t').asks = t.asks ++ t'.asks := List.map_append

@[simp] theorem denied_nil (x : Ask) : ¬ Denied [] x := fun ⟨_, h, _⟩ => nomatch h

@[simp] theorem denied_cons (x y : Ask) (a : Option Response) (t : Talk) :
    Denied ((y, a) :: t) x ↔ x = y ∧ IsAbsent a ∨ Denied t x := by
  unfold Denied
  constructor
  · rintro ⟨b, hb, ha⟩
    rcases List.mem_cons.mp hb with e | hb
    · cases e
      exact .inl ⟨rfl, ha⟩
    · exact .inr ⟨b, hb, ha⟩
  · rintro (⟨rfl, ha⟩ | ⟨b, hb, ha⟩)
    · exact ⟨a, List.mem_cons_self .., ha⟩
    · exact ⟨b, List.mem_cons_of_mem _ hb, ha⟩

@[simp] theorem denied_append (x : Ask) (t t' : Talk) :
    Denied (t ++ t') x ↔ Denied t x ∨ Denied t' x := by
  induction t with
  | nil => simp
  | cons y t ih => rw [List.cons_append, denied_cons, denied_cons, ih, or_assoc]

theorem plan_absent (componentAbsent : Bool) (d d' : Json) :
    plan location true componentAbsent d d' =
      (.showService :: (if location.isNone then [.showEnvironment] else [])) ++
        [.createService d] ++
        .showComponent :: (if componentAbsent then [.createComponent d'] else []) := by
  simp [plan]

theorem Placing.asks_eq (h : Placing location t l) :
    t.asks = .showService :: (if location.isNone then [.showEnvironment] else []) := by
  cases h with
  | configured _ hl => rw [hl]; rfl
  | asked _ hl _ => rw [hl]; rfl

theorem Placing.not_denied_component (h : Placing location t l) : ¬ Denied t .showComponent := by
  cases h <;> simp

/-- **A service that is there was found, or denied and created.** -/
theorem Serving.asks_eq (h : Serving m location service place t id) :
    ∃ serviceAbsent d, (serviceAbsent = true ↔ Denied t .showService) ∧
      ∀ componentAbsent d', plan location serviceAbsent componentAbsent d d' =
        t.asks ++ .showComponent :: (if componentAbsent then [.createComponent d'] else []) := by
  cases h with
  | found ha _ =>
    refine ⟨false, .null, ?_, fun _ _ => rfl⟩
    simpa using ha.not_absent
  | @created t l _ _ _ hp _ _ =>
    refine ⟨true, serviceDocument m service place l, ?_, ?_⟩
    · simpa using hp.denied
    · intro componentAbsent d'
      rw [plan_absent, asks_append, hp.asks_eq]
      rfl

theorem Serving.not_denied_component (h : Serving m location service place t id) :
    ¬ Denied t .showComponent := by
  cases h with
  | found => simp
  | created hp => simpa using hp.not_denied_component

/-- **The requests are the first ones of the plan.** -/
theorem Provisioning.ordered (h : Provisioning m location component service place t) :
    ∃ serviceAbsent componentAbsent d d',
      t.asks <+: plan location serviceAbsent componentAbsent d d' ∧
        (serviceAbsent = true ↔ Denied t .showService) ∧
        (componentAbsent = true ↔ Denied t .showComponent) := by
  cases h with
  | silent => exact ⟨false, false, .null, .null, List.nil_prefix, by simp, by simp⟩
  | service a =>
    by_cases ha : IsAbsent a
    · exact ⟨true, false, .null, .null, ⟨_, rfl⟩, by simp [ha], by simp⟩
    · exact ⟨false, false, .null, .null, ⟨_, rfl⟩, by simp [ha], by simp⟩
  | environment ha hl b =>
    subst hl
    exact ⟨true, false, .null, .null, ⟨_, rfl⟩, by simp [ha], by simp⟩
  | @serviceCreation t l hp a =>
    refine ⟨true, false, serviceDocument m service place l, .null, ?_, ?_, ?_⟩
    · rw [plan_absent, asks_append, hp.asks_eq]
      exact ⟨[.showComponent], rfl⟩
    · simpa using hp.denied
    · simpa using hp.not_denied_component
  | component hs a =>
    obtain ⟨serviceAbsent, d, hd, hplan⟩ := hs.asks_eq
    have hc := hs.not_denied_component
    by_cases ha : IsAbsent a
    · refine ⟨serviceAbsent, true, d, .null, ?_, by simpa using hd, by simp [ha]⟩
      rw [hplan, asks_append]
      exact ⟨[.createComponent .null], List.append_assoc ..⟩
    · refine ⟨serviceAbsent, false, d, .null, ?_, by simpa using hd, by simp [hc, ha]⟩
      rw [hplan, asks_append]
      exact List.prefix_refl _
  | @componentCreation t id hs a ha b =>
    obtain ⟨serviceAbsent, d, hd, hplan⟩ := hs.asks_eq
    refine ⟨serviceAbsent, true, d, componentDocument component service id, ?_, by simpa using hd,
      by simp [ha]⟩
    rw [hplan, asks_append]
    exact List.prefix_refl _

/-! ## 6. The environment -/

/-- The environment was asked for. -/
def EnvironmentShown (t : Talk) : Prop := ∃ a, (.showEnvironment, a) ∈ t

theorem EnvironmentShown.append {t : Talk} (h : EnvironmentShown t) (t' : Talk) :
    EnvironmentShown (t ++ t') :=
  h.imp fun _ ha => List.mem_append_left _ ha

theorem Sound.of_environmentShown (h : Sound m location component service place t)
    (hs : EnvironmentShown t) : Denied t .showService ∧ location = none := by
  obtain ⟨a, ha⟩ := hs
  obtain ⟨before, after, rfl⟩ := List.append_of_mem ha
  have hw := (h before _ after rfl).1
  cases hw with
  | showEnvironment hd hl => exact ⟨(denied_append ..).mpr (.inl hd), hl⟩

theorem Placing.environmentShown (h : Placing location t l) (hl : location = none) :
    EnvironmentShown t := by
  cases h with
  | configured _ hl' => rw [hl] at hl'; cases hl'
  | @asked _ b => exact ⟨b, List.mem_cons_of_mem _ (List.mem_cons_self ..)⟩

theorem Serving.environmentShown (h : Serving m location service place t id)
    (hd : Denied t .showService) (hl : location = none) : EnvironmentShown t := by
  cases h with
  | found ha _ => exact absurd hd (by simpa using ha.not_absent)
  | created hp _ _ => exact (hp.environmentShown hl).append _

/-- **Only the first 404 leaves the environment to be asked for.** -/
theorem Provisioning.environmentShown (h : Provisioning m location component service place t)
    (hd : Denied t .showService) (hl : location = none) :
    EnvironmentShown t ∨ ∃ a, IsAbsent a ∧ t = [(.showService, a)] := by
  cases h with
  | silent => exact absurd hd (denied_nil _)
  | service a => exact .inr ⟨a, by simpa using hd, rfl⟩
  | environment _ _ b => exact .inl ⟨b, List.mem_cons_of_mem _ (List.mem_cons_self ..)⟩
  | serviceCreation hp a => exact .inl ((hp.environmentShown hl).append _)
  | component hs a => exact .inl ((hs.environmentShown (by simpa using hd) hl).append _)
  | componentCreation hs _ b => exact .inl ((hs.environmentShown (by simpa using hd) hl).append _)

end Soundness

/-! ## 7. Every run -/

end DaprHosting.ResourceManager
