import DaprHosting.Proofs.Http.Exchange
import DaprHosting.Proofs.Results
import DaprHosting.ResourceManager

/-!
# The calls of the resource manager

Each call but the creation of a service is one request whose answer is read. `get_asked`,
`put_asked` and `environmentLocation_asked` say so; what an answer has to be
for a resource to be absent or found is said by `lookedUp_eq_absent_iff` and
`lookedUp_eq_found_iff`.
-/

namespace DaprHosting.ResourceManager

open Http

/-! ## 1. Answers -/

/-- What an answer to a GET says. -/
def lookedUp (a : Option Response) : Except ClientError Lookup := (received a).bind lookupOf

/-- What a lookup of an environment says of its location. -/
def located (group environment : String) : Lookup → Except ClientError String
  | .found r => locationOf environment r
  | .absent =>
    .error (.invalidConfig ("managed environment '" ++ environment ++
      "' not found in resource group '" ++ group ++ "'"))

/-- What an answer to a PUT says. -/
def submitted (a : Option Response) : Except ClientError (Option Resource) :=
  (received a).bind decode

/-- The answer is a 404. -/
def IsAbsent (a : Option Response) : Prop := ∃ r, a = some r ∧ r.status = 404

/-- The answer is a success with this resource in its body. -/
def Carries (a : Option Response) (resource : Resource) : Prop :=
  ∃ r, a = some r ∧ decode r = .ok (some resource)

/-- The answer is a success with an environment at this location. -/
def Locates (a : Option Response) (l : String) : Prop :=
  ∃ r, Carries a r ∧ r.properties.get? "location" = some (.string l)

theorem received_bind_eq_ok_iff {α : Type} {a : Option Response}
    {f : Response → Except ClientError α} {x : α} :
    (received a).bind f = .ok x ↔ ∃ r, a = some r ∧ f r = .ok x := by
  rw [bind_eq_ok_iff]
  cases a <;> simp [received]

theorem lookupOf_eq_absent_iff {r : Response} : lookupOf r = .ok .absent ↔ r.status = 404 := by
  unfold lookupOf
  split
  · exact ⟨fun _ => ‹_›, fun _ => rfl⟩
  · rename_i h
    refine ⟨fun he => ?_, fun he => absurd he h⟩
    split at he <;> cases he

theorem status_ne_of_decode {r : Response} {resource : Resource}
    (h : decode r = .ok (some resource)) : r.status ≠ 404 := by
  intro h4
  unfold decode at h
  split at h
  · cases h
  · rw [h4, if_neg (by decide)] at h
    cases h

theorem lookupOf_eq_found_iff {r : Response} {resource : Resource} :
    lookupOf r = .ok (.found resource) ↔ decode r = .ok (some resource) := by
  unfold lookupOf
  split
  · rename_i h
    exact ⟨nofun, fun he => absurd h (status_ne_of_decode he)⟩
  · rcases decode r with e | _ | resource' <;> simp

theorem lookedUp_eq_absent_iff {a : Option Response} : lookedUp a = .ok .absent ↔ IsAbsent a := by
  rw [lookedUp, received_bind_eq_ok_iff]
  exact exists_congr fun r => and_congr_right fun _ => lookupOf_eq_absent_iff

theorem lookedUp_eq_found_iff {a : Option Response} {resource : Resource} :
    lookedUp a = .ok (.found resource) ↔ Carries a resource := by
  rw [lookedUp, received_bind_eq_ok_iff]
  exact exists_congr fun r => and_congr_right fun _ => lookupOf_eq_found_iff

/-- No answer says both. -/
theorem Carries.not_absent {a : Option Response} {resource : Resource} (h : Carries a resource) :
    ¬ IsAbsent a := by
  obtain ⟨r, rfl, hr⟩ := h
  rintro ⟨_, ⟨⟩, h4⟩
  exact status_ne_of_decode hr h4

theorem submitted_eq_made_iff {a : Option Response} {resource : Resource} :
    submitted a = .ok (some resource) ↔ Carries a resource :=
  received_bind_eq_ok_iff

/-- A location is a text. -/
theorem locationOf_eq_ok_iff {environment : String} {r : Resource} {l : String} :
    locationOf environment r = .ok l ↔ r.properties.get? "location" = some (.string l) := by
  unfold locationOf Json.optional Json.fieldOr
  rcases r.properties.get? "location" with _ | j
  · simp
  · cases j <;> simp [Json.nullable, Json.string?]

theorem located_eq_ok_iff {group environment l : String} {a : Option Response} :
    (lookedUp a).bind (located group environment) = .ok l ↔ Locates a l := by
  rw [bind_eq_ok_iff]
  constructor
  · rintro ⟨r | _, h, hl⟩
    · exact ⟨r, lookedUp_eq_found_iff.mp h, locationOf_eq_ok_iff.mp hl⟩
    · cases hl
  · rintro ⟨r, h, hl⟩
    exact ⟨.found r, lookedUp_eq_found_iff.mpr h, locationOf_eq_ok_iff.mpr hl⟩

/-! ## 2. Calls -/

theorem ofExcept_run {σ ε α : Type} (r : Except ε α) (s : σ) :
    (Action.ofExcept r : Action σ ε α) s = ⟨r, s, []⟩ := by
  cases r <;> rfl

/-- An answer that is read further is still one answer. -/
theorem asked_bind {α β : Type} {network : Network} {q : Request} {w : Wire}
    {read : Option Response → Except ClientError α} {x : Action Wire ClientError α}
    {f : α → Action Wire ClientError β} {g : α → Except ClientError β}
    (h : Asked network q read w (x w).result (x w).state)
    (hf : ∀ a, f a = Action.ofExcept (g a)) :
    Asked network q (fun a => (read a).bind g) w ((x >>= f) w).result ((x >>= f) w).state := by
  rw [Action.bind_run]
  generalize x w = o at h ⊢
  rcases o with ⟨res, w', log⟩
  cases h with
  | unsent hn e => exact .unsent hn e
  | sent hs =>
    have hk : Asked network q (fun a => (read a).bind g) w ((read w.answer).bind g) (w.send q) :=
      .sent hs
    cases hr : read w.answer with
    | error e =>
      rw [hr] at hk
      exact hk
    | ok a =>
      rw [hr] at hk
      simp only [hf, ofExcept_run]
      exact hk

section Calls

variable (m : ResourceManager) (network : Network) (url : Url) (w : Wire)

theorem get_asked :
    Asked network ⟨.get, url, m.token, none⟩ lookedUp w (m.get network url w).result
      (m.get network url w).state :=
  asked_bind (exchange_asked network _ w) fun _ => rfl

theorem put_asked (document : Json) :
    Asked network ⟨.put, url, m.token, some document⟩ submitted w
      (m.put network url document w).result (m.put network url document w).state :=
  asked_bind (exchange_asked network _ w) fun _ => rfl

theorem environmentLocation_asked (group environment : String) :
    Asked network ⟨.get, m.environmentUrl group environment, m.token, none⟩
      (fun a => (lookedUp a).bind (located group environment)) w
      (m.environmentLocation network group environment w).result
      (m.environmentLocation network group environment w).state :=
  asked_bind (get_asked m network _ w) fun
    | .found _ => rfl
    | .absent => rfl

end Calls

end DaprHosting.ResourceManager
