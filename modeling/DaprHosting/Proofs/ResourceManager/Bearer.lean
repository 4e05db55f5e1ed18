import Mathlib.Data.List.Forall2
import DaprHosting.Proofs.ControlPlane.Agreement
import DaprHosting.ResourceManager

/-!
# What depends on the token

Two clients that differ in their tokens alone cannot be told apart but by the authorization of their
requests. Along the wires that are the same but for that (`AlikeBut`), each call of one client
agrees with the same call of the other, so the two control planes agree, and whatever is built on
them: lookups, creations, provisioning, and any sequence of these (`token_is_unseen`).
-/

namespace DaprHosting.ResourceManager

open Http

/-! ## 1. Wires that are alike -/

/-- The requests are the same, each with the token of its client. -/
structure Twins (t t' : String) (q q' : Request) : Prop where
  method : q.method = q'.method
  url : q.url = q'.url
  body : q.body = q'.body
  token : q.token = t
  token' : q'.token = t'

/-- The wires have the same deliveries to come, and the same requests but for the tokens. -/
structure AlikeBut (t t' : String) (w w' : Wire) : Prop where
  pending : w.pending = w'.pending
  sent : List.Forall₂ (Twins t t') w.sent w'.sent

/-- The client with another token. -/
def withToken (m : ResourceManager) (token : String) : ResourceManager := { m with token := token }

section Agreement

variable {t t' : String} (ht : isHeaderText t = true) (ht' : isHeaderText t' = true)

theorem ofExcept_agrees {σ τ ε α : Type} {R : τ → σ → Prop} (x : Except ε α) :
    Action.Agrees R (Action.ofExcept x : Action τ ε α) (Action.ofExcept x : Action σ ε α) := by
  cases x with
  | error e => exact .fail e
  | ok a => exact .pure a

include ht ht' in
/-- **Requests that differ in their tokens alone are answered alike.** -/
theorem exchange_agrees (network : Network) {q q' : Request} (h : Twins t t' q q') :
    Action.Agrees (AlikeBut t t') (exchange network q) (exchange network q') := by
  intro w w' hw
  obtain ⟨pending, sent⟩ := w
  obtain ⟨pending', sent'⟩ := w'
  obtain ⟨rfl, hsent⟩ := hw
  have hsent' : List.Forall₂ (Twins t t') (sent ++ [q]) (sent' ++ [q']) :=
    List.rel_append hsent (.cons h .nil)
  unfold exchange
  rw [h.token, h.token', ht, ht', h.url, Bool.true_and]
  split
  · cases pending with
    | nil => exact ⟨rfl, rfl, rfl, hsent'⟩
    | cons d rest => cases d <;> exact ⟨rfl, rfl, rfl, hsent'⟩
  · exact ⟨rfl, rfl, rfl, hsent⟩

/-! ## 2. Calls -/

variable (m : ResourceManager) (network : Network)

include ht ht' in
theorem get_agrees (url : Url) :
    Action.Agrees (AlikeBut t t') ((m.withToken t).get network url)
      ((m.withToken t').get network url) :=
  .bind (.log _) fun _ =>
    .bind (exchange_agrees ht ht' network ⟨rfl, rfl, rfl, rfl, rfl⟩) fun _ => ofExcept_agrees _

include ht ht' in
theorem put_agrees (url : Url) (body : Json) :
    Action.Agrees (AlikeBut t t') ((m.withToken t).put network url body)
      ((m.withToken t').put network url body) :=
  .bind (.log _) fun _ =>
    .bind (exchange_agrees ht ht' network ⟨rfl, rfl, rfl, rfl, rfl⟩) fun _ => ofExcept_agrees _

include ht ht' in
theorem environmentLocation_agrees (group environment : String) :
    Action.Agrees (AlikeBut t t') ((m.withToken t).environmentLocation network group environment)
      ((m.withToken t').environmentLocation network group environment) := by
  refine .bind (get_agrees ht ht' m network _) fun answer => ?_
  cases answer with
  | found r => exact ofExcept_agrees _
  | absent => exact .fail _

include ht ht' in
theorem createService_agrees (group environment name : String) (payload : ServicePayload) :
    Action.Agrees (AlikeBut t t')
      ((m.withToken t).createService network group environment name payload)
      ((m.withToken t').createService network group environment name payload) := by
  unfold createService
  cases payload.location with
  | some location => exact put_agrees ht ht' m network _ _
  | none =>
    exact .bind (environmentLocation_agrees ht ht' m network group environment) fun location =>
      .bind (.log _) fun _ => put_agrees ht ht' m network _ _

include ht ht' in
/-- **The control planes of the two clients agree.** -/
theorem plane_agrees :
    ControlPlane.Agrees (AlikeBut t t') ((m.withToken t).plane network)
      ((m.withToken t').plane network) where
  environmentId _ _ := rfl
  showService _ _ := get_agrees ht ht' m network _
  createService _ _ _ _ := createService_agrees ht ht' m network _ _ _ _
  showComponent _ _ _ := get_agrees ht ht' m network _
  createComponent _ _ _ _ := put_agrees ht ht' m network _ _

end Agreement

/-! ## 3. Any calls in a row -/

/-- What a client is used for. -/
inductive Use where
  | showService (group name : String)
  | createService (group environment name : String) (payload : ServicePayload)
  | showComponent (group environment name : String)
  | createComponent (group environment name : String) (payload : ComponentPayload)
  | provision (location : Option String) (component : ComponentKind) (service : ServiceKind)
      (place : Provision.Place)

/-- What comes of it: a result or an error, of the kind that the use has. -/
inductive Answer where
  | shown (result : Except ClientError Lookup)
  | created (result : Except ClientError (Option Resource))
  | provisioned (result : Except Provision.Error Provisioned)

/-- One use of a client: what comes of it, the wire that it leaves, and what it logs. -/
def use (m : ResourceManager) (network : Network) (w : Wire) : Use → Answer × Wire × List Log.Event
  | .showService group name =>
    let o := (m.plane network).showService group name w
    (.shown o.result, o.state, o.log)
  | .createService group environment name payload =>
    let o := (m.plane network).createService group environment name payload w
    (.created o.result, o.state, o.log)
  | .showComponent group environment name =>
    let o := (m.plane network).showComponent group environment name w
    (.shown o.result, o.state, o.log)
  | .createComponent group environment name payload =>
    let o := (m.plane network).createComponent group environment name payload w
    (.created o.result, o.state, o.log)
  | .provision location component service place =>
    let o := Provision.provision (m.plane network) location component service place w
    (.provisioned o.result, o.state, o.log)

/-- What comes of uses in a row, each with what it logs, and the wire that they leave. -/
def useAll (m : ResourceManager) (network : Network) :
    List Use → Wire → List (Answer × List Log.Event) × Wire
  | [], w => ([], w)
  | u :: us, w =>
    let (answer, left, log) := m.use network w u
    let (rest, last) := m.useAll network us left
    ((answer, log) :: rest, last)

section Uses

variable {t t' : String} (ht : isHeaderText t = true) (ht' : isHeaderText t' = true)
  (m : ResourceManager) (network : Network)

include ht ht' in
/-- **One use does not depend on the token.** -/
theorem use_alike {w w' : Wire} (hw : AlikeBut t t' w w') (u : Use) :
    ((m.withToken t).use network w u).1 = ((m.withToken t').use network w' u).1 ∧
      ((m.withToken t).use network w u).2.2 = ((m.withToken t').use network w' u).2.2 ∧
      AlikeBut t t' ((m.withToken t).use network w u).2.1
        ((m.withToken t').use network w' u).2.1 := by
  have hplane := plane_agrees ht ht' m network
  cases u with
  | showService group name =>
    obtain ⟨hresult, hlog, hstate⟩ := hplane.showService group name w w' hw
    exact ⟨congrArg Answer.shown hresult, hlog, hstate⟩
  | createService group environment name payload =>
    obtain ⟨hresult, hlog, hstate⟩ := hplane.createService group environment name payload w w' hw
    exact ⟨congrArg Answer.created hresult, hlog, hstate⟩
  | showComponent group environment name =>
    obtain ⟨hresult, hlog, hstate⟩ := hplane.showComponent group environment name w w' hw
    exact ⟨congrArg Answer.shown hresult, hlog, hstate⟩
  | createComponent group environment name payload =>
    obtain ⟨hresult, hlog, hstate⟩ := hplane.createComponent group environment name payload w w' hw
    exact ⟨congrArg Answer.created hresult, hlog, hstate⟩
  | provision location component service place =>
    obtain ⟨hresult, hlog, hstate⟩ :=
      Provision.provision_agrees hplane location component service place w w' hw
    exact ⟨congrArg Answer.provisioned hresult, hlog, hstate⟩

include ht ht' in
/-- **Nor do uses in a row.** -/
theorem useAll_alike (us : List Use) {w w' : Wire} (hw : AlikeBut t t' w w') :
    ((m.withToken t).useAll network us w).1 = ((m.withToken t').useAll network us w').1 ∧
      AlikeBut t t' ((m.withToken t).useAll network us w).2
        ((m.withToken t').useAll network us w').2 := by
  induction us generalizing w w' with
  | nil => exact ⟨rfl, hw⟩
  | cons u us ih =>
    obtain ⟨hanswer, hlog, hleft⟩ := use_alike ht ht' m network hw u
    obtain ⟨hrest, hlast⟩ := ih hleft
    refine ⟨?_, hlast⟩
    rw [useAll, useAll]
    simp only [hanswer, hlog, hrest]

end Uses

/-! ## 4. What is sent -/

/-- What a request is apart from its token. -/
def bare (q : Request) : Method × Url × Option Json := (q.method, q.url, q.body)

section Twins

variable {t t' : String} {sent sent' : List Request}

/-- Twins are the same requests apart from the tokens. -/
theorem bare_eq_of_twins (h : List.Forall₂ (Twins t t') sent sent') :
    sent.map bare = sent'.map bare := by
  have heq : List.Forall₂ (· = ·) (sent.map bare) (sent'.map bare) := by
    rw [List.forall₂_map_left_iff, List.forall₂_map_right_iff]
    refine h.imp fun q q' hq => ?_
    rw [bare, bare, hq.method, hq.url, hq.body]
  rwa [List.forall₂_eq_eq_eq] at heq

/-- The requests of one side carry the token of that side. -/
theorem token_of_twins (h : List.Forall₂ (Twins t t') sent sent') : ∀ q ∈ sent, q.token = t := by
  induction h with
  | nil => exact fun _ hq => (List.not_mem_nil hq).elim
  | cons hq _ ih =>
    intro q hmem
    obtain rfl | hmem := List.mem_cons.1 hmem
    · exact hq.token
    · exact ih q hmem

/-- The sides can be exchanged. -/
theorem Twins.swap {q q' : Request} (h : Twins t t' q q') : Twins t' t q' q :=
  ⟨h.method.symm, h.url.symm, h.body.symm, h.token', h.token⟩

end Twins

/-- **The token is seen in nothing but the authorization.** Two clients that differ only in tokens
    that can stand in a header, over the same deliveries and for the same uses in a row, come to the
    same answers, log the same events and send the same requests, each run with its own token in
    every request; and every token is written alike. -/
theorem token_is_unseen (m : ResourceManager) (network : Network) (deliveries : List Delivery)
    (uses : List Use) {t t' : String} (ht : isHeaderText t = true) (ht' : isHeaderText t' = true) :
    let run := (m.withToken t).useAll network uses ⟨deliveries, []⟩
    let run' := (m.withToken t').useAll network uses ⟨deliveries, []⟩
    run.1 = run'.1 ∧ run.2.sent.map bare = run'.2.sent.map bare ∧
      (∀ q ∈ run.2.sent, q.authorization = "Bearer " ++ t) ∧
      (∀ q ∈ run'.2.sent, q.authorization = "Bearer " ++ t') ∧
      ∀ token token' : Token, token.written = token'.written := by
  intro run run'
  have hstart : AlikeBut t t' ⟨deliveries, []⟩ ⟨deliveries, []⟩ := ⟨rfl, .nil⟩
  obtain ⟨hanswers, hwires⟩ := useAll_alike ht ht' m network uses hstart
  have hback : List.Forall₂ (Twins t' t) run'.2.sent run.2.sent :=
    List.Forall₂.flip (hwires.sent.imp fun _ _ => Twins.swap)
  refine ⟨hanswers, bare_eq_of_twins hwires.sent, ?_, ?_, fun _ _ => rfl⟩
  · intro q hq
    rw [Request.authorization, token_of_twins hwires.sent q hq]
  · intro q hq
    rw [Request.authorization, token_of_twins hback q hq]

/-- A client that finds no service and then is refused: two requests are sent, which differ in the
    two tokens alone. -/
theorem token_is_unseen_of_refused_creation :
    let m : ResourceManager :=
      ⟨⟨"https".toList, some ⟨[], "localhost".toList, none⟩, .segments [[]], none, none⟩, ⟨0⟩,
        "2023-05-01", ""⟩
    let deliveries : List Delivery := [.complete 404 [], .complete 403 []]
    let uses : List Use := [.provision (some "north") .state .redis ⟨"rg", "dev"⟩]
    let run := (m.withToken "first").useAll ⟨fun _ => true⟩ uses ⟨deliveries, []⟩
    let run' := (m.withToken "second").useAll ⟨fun _ => true⟩ uses ⟨deliveries, []⟩
    run.2.sent.map Request.authorization = ["Bearer first", "Bearer first"] ∧
      run.1 = run'.1 ∧ run.2.sent.map bare = run'.2.sent.map bare ∧
      (∀ q ∈ run.2.sent, q.authorization = "Bearer " ++ "first") ∧
      (∀ q ∈ run'.2.sent, q.authorization = "Bearer " ++ "second") ∧
      ∀ token token' : Token, token.written = token'.written := by
  intro m deliveries uses run run'
  exact ⟨by decide +kernel,
    token_is_unseen m ⟨fun _ => true⟩ deliveries uses (by decide +kernel) (by decide +kernel)⟩

end DaprHosting.ResourceManager
