import DaprHosting.Proofs.ResourceManager.Address
import DaprHosting.Proofs.ResourceManager.Bearer
import DaprHosting.Proofs.ResourceManager.Talk

/-!
# Where requests are sent

Every use of a client is about a few targets (`Use.targets`), and whatever is answered, each request
that is sent for it has the URL of one of them: by `Sends.use` for one use, by `mem_sent_useAll` for
uses in a row. So what holds of the URLs of targets holds of every request. `targets_are_addressed`
says that of the paths, `query_carries_version` of the queries.
-/

namespace DaprHosting.ResourceManager

open Http Provision
open Url (IsWebScheme pieces withoutEmptyEnd)

/-! ## 1. The targets of a use -/

/-- **What the requests of a use are about.** -/
def Use.targets : Use → List Target
  | .showService group name => [.service group name]
  | .createService group env name _ => [.environment group env, .service group name]
  | .showComponent group env name => [.component group env name]
  | .createComponent group env name _ => [.component group env name]
  | .provision _ component service place =>
    [.service place.group service.serviceName, .environment place.group place.environment,
      .component place.group place.environment (component.componentName service)]

/-- What is sent from one wire to the other goes to these targets. -/
def Sends (m : ResourceManager) (ts : List Target) (w w' : Wire) : Prop :=
  ∃ qs : List Request, w'.sent = w.sent ++ qs ∧ ∀ q ∈ qs, ∃ t ∈ ts, q.url = t.url m

section Sends

variable {m : ResourceManager} {network : Network} {ts : List Target} {w w' w'' : Wire}

theorem Sends.trans (h : Sends m ts w w') (h' : Sends m ts w' w'') : Sends m ts w w'' := by
  obtain ⟨qs, hsent, hqs⟩ := h
  obtain ⟨qs', hsent', hqs'⟩ := h'
  refine ⟨qs ++ qs', by rw [hsent', hsent, List.append_assoc], fun q hq => ?_⟩
  exact (List.mem_append.mp hq).elim (hqs q) (hqs' q)

/-- One request at most is sent for a call that makes one. -/
theorem Sends.of_asked {α : Type} {q : Request} {read : Option Response → Except ClientError α}
    {res : Except ClientError α} (h : Asked network q read w res w') {t : Target} (ht : t ∈ ts)
    (hurl : q.url = t.url m) : Sends m ts w w' := by
  rcases h.or with ⟨-, -, rfl⟩ | ⟨-, -, rfl⟩
  · exact ⟨[], (List.append_nil _).symm, nofun⟩
  · refine ⟨[q], rfl, fun q' hq' => ?_⟩
    rw [List.mem_singleton.mp hq']
    exact ⟨t, ht, hurl⟩

/-- A service without a location costs a request for its environment first. -/
theorem Sends.createService (group env name : String) (payload : ServicePayload)
    (hservice : .service group name ∈ ts) (henv : .environment group env ∈ ts) :
    Sends m ts w (m.createService network group env name payload w).state := by
  have hput : ∀ (v : Wire) (document : Json),
      Sends m ts v (m.put network (m.serviceUrl group name) document v).state :=
    fun v document => .of_asked (put_asked m network _ v document) hservice rfl
  unfold ResourceManager.createService
  cases payload.location with
  | some location => exact hput w payload.toJson
  | none =>
    have hget : Sends m ts w (m.environmentLocation network group env w).state :=
      .of_asked (environmentLocation_asked m network w group env) henv rfl
    cases hlocation : (m.environmentLocation network group env w).result with
    | error e =>
      simp only [Action.bind_run_error hlocation]
      exact hget
    | ok location =>
      simp only [Action.bind_run_ok hlocation, Action.debug, Action.log_bind_run]
      exact hget.trans (hput _ _)

/-- Provisioning asks for three resources. -/
theorem Sends.provision (location : Option String) (component : ComponentKind)
    (service : ServiceKind) (place : Place) :
    Sends m (Use.provision location component service place).targets w
      (provision (m.plane network) location component service place w).state := by
  obtain ⟨t, ht, -⟩ := provision_talked m network location component service place w
  refine ⟨_, ht.exchanged.sent, fun q hq => ?_⟩
  rw [exchanges, List.map_map] at hq
  obtain ⟨⟨a, answer⟩, -, rfl⟩ := List.mem_map.mp hq
  cases a with
  | showService => exact ⟨_, .head _, rfl⟩
  | showEnvironment => exact ⟨_, .tail _ (.head _), rfl⟩
  | createService document => exact ⟨_, .head _, rfl⟩
  | showComponent => exact ⟨_, .tail _ (.tail _ (.head _)), rfl⟩
  | createComponent document => exact ⟨_, .tail _ (.tail _ (.head _)), rfl⟩

/-- **A use sends requests to its targets only.** -/
theorem Sends.use (u : Use) : Sends m u.targets w (m.use network w u).2.1 := by
  cases u with
  | showService group name => exact .of_asked (get_asked m network _ w) (.head _) rfl
  | createService group env name payload =>
    exact .createService group env name payload (.tail _ (.head _)) (.head _)
  | showComponent group env name => exact .of_asked (get_asked m network _ w) (.head _) rfl
  | createComponent group env name payload =>
    exact .of_asked (put_asked m network _ w _) (.head _) rfl
  | provision location component service place => exact .provision location component service place

end Sends

/-- **Each request has the URL of a target** of one of the uses. -/
theorem mem_sent_useAll {m : ResourceManager} {network : Network} {uses : List Use} {w : Wire}
    {q : Request} (hq : q ∈ (m.useAll network uses w).2.sent) :
    q ∈ w.sent ∨ ∃ u ∈ uses, ∃ t ∈ u.targets, q.url = t.url m := by
  induction uses generalizing w with
  | nil => exact .inl hq
  | cons u uses ih =>
    have hrest : q ∈ (m.useAll network uses (m.use network w u).2.1).2.sent := hq
    rcases ih hrest with hq | ⟨v, hv, h⟩
    · obtain ⟨qs, hsent, hqs⟩ : Sends m u.targets w (m.use network w u).2.1 := .use u
      rw [hsent] at hq
      rcases List.mem_append.mp hq with hq | hq
      · exact .inl hq
      · exact .inr ⟨u, .head _, hqs q hq⟩
    · exact .inr ⟨v, .tail _ hv, h⟩

/-! ## 2. Paths -/

/-- **Requests name what they are about**, below the endpoint. -/
structure Addressed (endpoint : Url) : Prop where
  /-- A path says the names of the endpoint and then the address of its target, if and only if each
      of the caller's texts can stand as a name. -/
  pieces_iff : ∀ m : ResourceManager, m.endpoint = endpoint → ∀ t : Target,
    (t.url m).pieces =
        withoutEmptyEnd endpoint.pieces ++
          (t.address m.subscriptionId).map (Text.utf8 ∘ String.toList) ↔
      t.Named
  /-- Distinct targets, or targets of distinct subscriptions, have distinct URLs. -/
  apart : ∀ m m' : ResourceManager, m.endpoint = endpoint → m'.endpoint = endpoint →
    ∀ t t' : Target, t.Named → t'.Named → (t.url m).requestText = (t'.url m').requestText →
      m.subscriptionId = m'.subscriptionId ∧ t = t'
  /-- A slash behind the path of the endpoint makes no difference. -/
  slash : (∀ s ∈ endpoint.segments, s ≠ []) →
    (withSlash endpoint).path.toChars = endpoint.path.toChars ++ ['/'] ∧
      ∀ m : ResourceManager, m.endpoint = endpoint → ∀ t : Target,
        t.url { m with endpoint := withSlash endpoint } = t.url m
  /-- Requests are sent to the targets of the uses, and nowhere else. -/
  sent : ∀ m : ResourceManager, m.endpoint = endpoint →
    ∀ (network : Network) (uses : List Use) (deliveries : List Delivery),
      ∀ q ∈ (m.useAll network uses ⟨deliveries, []⟩).2.sent,
        ∃ u ∈ uses, ∃ t ∈ u.targets, q.url = t.url m

/-- **The paths of requests name exactly what they are about**, for every endpoint of the web whose
    path has no empty segment but at its end. -/
theorem targets_are_addressed {text : String} {endpoint : Url}
    (hread : Url.read? text = some endpoint) (hscheme : IsWebScheme endpoint.scheme)
    (hinner : ∀ s ∈ endpoint.segments.dropLast, s ≠ []) : Addressed endpoint := by
  have hweb := Url.web_of_read hread hscheme
  refine ⟨?_, ?_, ?_, ?_⟩
  · rintro m rfl t
    exact pieces_url_iff hweb hinner t
  · rintro m m' rfl hendpoint t t' ht ht' h
    exact target_of_requestText hweb hendpoint hinner ht ht' h
  · intro hfull
    refine ⟨toChars_withSlash hweb, ?_⟩
    rintro m rfl t
    rw [t.url_eq, t.url_eq, url, url, appendNames_withSlash hweb hfull]
  · rintro m - network uses deliveries q hq
    rcases mem_sent_useAll hq with hq | hq
    · cases hq
    · exact hq

/-- An endpoint with a path, and a slash behind it. -/
theorem targets_are_addressed_below_path :
    let endpoint : Url :=
      ⟨"https".toList, some ⟨[], "management.example.com".toList, none⟩,
        .segments ["gateway".toList, []], none, none⟩
    endpoint.pieces = [Text.utf8 "gateway".toList, []] ∧ Addressed endpoint := by
  intro endpoint
  have hread : Url.read? "https://management.example.com/gateway/" = some endpoint := by
    decide +kernel
  exact ⟨by decide +kernel, targets_are_addressed hread (by decide +kernel) (by decide +kernel)⟩

/-! ## 3. Queries -/

/-- The query of a URL is that of the endpoint, pair by pair, and the version of the interface
    behind it. -/
def CarriesVersion (m : ResourceManager) (u : Url) : Prop :=
  ∃ q, u.query = some q ∧
    Url.Form.pairs q =
      Url.Form.pairs (m.endpoint.query.getD []) ++ [("api-version", m.apiVersion)]

theorem carriesVersion_url (m : ResourceManager) (names : List String) :
    CarriesVersion m (m.url names) := by
  have hquery : (m.endpoint.appendNames (names.map String.toList)).query = m.endpoint.query := by
    unfold Url.appendNames
    split <;> rfl
  refine ⟨_, rfl, ?_⟩
  rw [Url.Form.pairs_append, hquery, String.ofList_toList, String.ofList_toList]

/-- **Every request carries the version of the interface**, whatever the endpoint's own query and
    the version are: so does the URL of every target, and so does each request of any uses in a row,
    whatever is answered. -/
theorem query_carries_version (m : ResourceManager) :
    (∀ t : Target, CarriesVersion m (t.url m)) ∧
      ∀ (network : Network) (uses : List Use) (deliveries : List Delivery),
        ∀ q ∈ (m.useAll network uses ⟨deliveries, []⟩).2.sent, CarriesVersion m q.url := by
  have htarget : ∀ t : Target, CarriesVersion m (t.url m) := by
    intro t
    rw [t.url_eq]
    exact carriesVersion_url m _
  refine ⟨htarget, fun network uses deliveries q hq => ?_⟩
  rcases mem_sent_useAll hq with hq | ⟨u, -, t, -, hurl⟩
  · cases hq
  · rw [hurl]
    exact htarget t

end DaprHosting.ResourceManager
