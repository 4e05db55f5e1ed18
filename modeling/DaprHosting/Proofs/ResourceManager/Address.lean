import DaprHosting.Proofs.Url.Form
import DaprHosting.Proofs.Url.Names
import DaprHosting.Proofs.Uuid.Written
import DaprHosting.ResourceManager

/-!
# What the URLs of requests say

A request is about a service, an environment or a component (`Target`). Its URL leads there by a
list of names below the endpoint (`Target.address`): by `pieces_url_iff` the path says just these
names, whatever the caller's texts hold, exactly when each of them can stand as a name; so the URL
tells the targets apart, by `target_of_requestText`.
-/

namespace DaprHosting.ResourceManager

open Url (IsName IsWebScheme Web pieces withoutEmptyEnd)

/-! ## 1. Targets -/

/-- What a request is about. -/
inductive Target where
  | service (group name : String)
  | environment (group environment : String)
  | component (group environment name : String)
deriving DecidableEq, Repr

namespace Target

/-- The URL of the requests about a target. -/
def url (m : ResourceManager) : Target → Url
  | .service group name => m.serviceUrl group name
  | .environment group env => m.environmentUrl group env
  | .component group env name => m.componentUrl group env name

/-- The texts of the caller. -/
def texts : Target → List String
  | .service group name => [group, name]
  | .environment group env => [group, env]
  | .component group env name => [group, env, name]

/-- **Where a target is found** below the endpoint. -/
def address (subscription : Uuid) : Target → List String
  | .service group name =>
    ["subscriptions", subscription.toText, "resourceGroups", group, "providers", "Microsoft.App",
      "containerApps", name]
  | .environment group env =>
    ["subscriptions", subscription.toText, "resourceGroups", group, "providers", "Microsoft.App",
      "managedEnvironments", env]
  | .component group env name =>
    ["subscriptions", subscription.toText, "resourceGroups", group, "providers", "Microsoft.App",
      "managedEnvironments", env, "daprComponents", name]

/-- **Each of the caller's texts can stand as a name.** -/
def Named (t : Target) : Prop := ∀ s ∈ t.texts, IsName s.toList

instance (t : Target) : Decidable t.Named := List.decidableBAll _ _

theorem url_eq (m : ResourceManager) (t : Target) : t.url m = m.url (t.address m.subscriptionId) := by
  cases t <;> rfl

theorem address_eq_cons (subscription : Uuid) (t : Target) :
    t.address subscription = "subscriptions" :: (t.address subscription).tail := by
  cases t <;> rfl

/-- **Addresses tell subscriptions and targets apart.** -/
theorem address_inj {subscription subscription' : Uuid} {t t' : Target}
    (h : t.address subscription = t'.address subscription') :
    subscription = subscription' ∧ t = t' := by
  have hid : subscription.toText = subscription'.toText := by
    cases t <;> cases t' <;> simp_all [address]
  refine ⟨Uuid.toText_inj hid, ?_⟩
  cases t <;> cases t' <;> simp_all [address]

end Target

/-! ## 2. Paths -/

/-- An identifier can stand as a name. -/
theorem isName_toText (u : Uuid) : IsName u.toText.toList := by
  have hchars : u.toText.toList = u.toChars := String.toList_ofList
  have hhyphen := Uuid.hyphen_mem_toChars u
  have hdigit : ∀ n < 16, Url.isSkipped (Nat.digitChar n) = false := by decide
  rw [hchars]
  refine ⟨fun e => ?_, fun e => ?_, fun c hc => ?_⟩
  · rw [e] at hhyphen
    exact absurd hhyphen (by decide)
  · rw [e] at hhyphen
    exact absurd hhyphen (by decide)
  · rcases Uuid.mem_toChars hc with rfl | ⟨n, hn, rfl⟩
    · rfl
    · exact hdigit n hn

/-- The names of an address are names when the caller's texts are. -/
theorem isName_address_iff (subscription : Uuid) (t : Target) :
    (∀ n ∈ (t.address subscription).tail.map String.toList, IsName n) ↔ t.Named := by
  have hid := isName_toText subscription
  have hfixed : ∀ s ∈ ["resourceGroups", "providers", "Microsoft.App", "containerApps",
      "managedEnvironments", "daprComponents"], IsName s.toList := by decide
  simp only [List.mem_cons, List.not_mem_nil, or_false, forall_eq_or_imp, forall_eq] at hfixed
  obtain ⟨h₁, h₂, h₃, h₄, h₅, h₆⟩ := hfixed
  cases t <;>
    simp only [Target.Named, Target.address, Target.texts, List.tail_cons, List.forall_mem_map,
      List.mem_cons, List.not_mem_nil, or_false, forall_eq_or_imp, forall_eq, hid, h₁, h₂, h₃, h₄,
      h₅, h₆, true_and]

section Web

variable {m : ResourceManager} (hweb : Web m.endpoint)

include hweb

theorem web_url (t : Target) : Web (t.url m) := by
  rw [t.url_eq]
  have h := Url.web_appendNames hweb ((t.address m.subscriptionId).map String.toList)
  exact ⟨h.scheme, h.authority, h.path, h.nonempty, h.unbroken⟩

/-- **The path of a URL says the address** below the endpoint, exactly for texts that are names. -/
theorem pieces_url_iff (hinner : ∀ s ∈ m.endpoint.segments.dropLast, s ≠ []) (t : Target) :
    (t.url m).pieces =
        withoutEmptyEnd m.endpoint.pieces ++
          (t.address m.subscriptionId).map (Text.utf8 ∘ String.toList) ↔
      t.Named := by
  have hfirst : IsName "subscriptions".toList := by decide
  have h := Url.pieces_appendNames_iff hweb hinner hfirst (by decide)
    ((t.address m.subscriptionId).tail.map String.toList)
  rw [isName_address_iff, ← List.map_cons, ← t.address_eq_cons, List.map_map] at h
  rw [t.url_eq]
  exact h

/-- **URLs tell targets apart** whose texts are names, and subscriptions too. -/
theorem target_of_requestText {m' : ResourceManager} (hendpoint : m'.endpoint = m.endpoint)
    (hinner : ∀ s ∈ m.endpoint.segments.dropLast, s ≠ []) {t t' : Target} (ht : t.Named)
    (ht' : t'.Named) (h : (t.url m).requestText = (t'.url m').requestText) :
    m.subscriptionId = m'.subscriptionId ∧ t = t' := by
  have hweb' : Web m'.endpoint := hendpoint ▸ hweb
  have hinner' : ∀ s ∈ m'.endpoint.segments.dropLast, s ≠ [] := hendpoint ▸ hinner
  have hkept : ∀ {n : ResourceManager}, Web n.endpoint → ∀ t : Target,
      (t.url n).scheme = n.endpoint.scheme ∧ (t.url n).authority = n.endpoint.authority := by
    intro n hn t
    rw [t.url_eq, ResourceManager.url, Url.appendPair, Url.appendNames, hn.path]
    exact ⟨rfl, rfl⟩
  have hpath := Url.pathChars_of_requestText (web_url hweb t) (web_url hweb' t')
    (by rw [(hkept hweb t).1, (hkept hweb' t').1, hendpoint])
    (by rw [(hkept hweb t).2, (hkept hweb' t').2, hendpoint])
    (congrArg Url.query (t.url_eq m)) (congrArg Url.query (t'.url_eq m')) h
  have hpieces : (t.url m).pieces = (t'.url m').pieces := by
    rw [pieces, pieces, Url.pathPieces, Url.pathPieces, hpath]
  rw [(pieces_url_iff hweb hinner t).mpr ht, (pieces_url_iff hweb' hinner' t').mpr ht', hendpoint]
    at hpieces
  have hutf8 : Function.Injective (Text.utf8 ∘ String.toList) :=
    Text.utf8_injective.comp fun _ _ => String.toList_inj.mp
  exact Target.address_inj (List.map_injective_iff.mpr hutf8 (List.append_cancel_left hpieces))

end Web

/-- The endpoint with a slash behind its path. -/
def withSlash (u : Url) : Url := { u with path := .segments (u.segments ++ [[]]) }

theorem toChars_withSlash {u : Url} (hu : Web u) :
    (withSlash u).path.toChars = u.path.toChars ++ ['/'] := by
  rw [withSlash, hu.path, Url.Path.toChars, Url.Path.toChars, Url.segmentChars,
    List.flatMap_append]
  rfl

/-- **A slash behind the path of an endpoint** makes no difference. -/
theorem appendNames_withSlash {u : Url} (hu : Web u) (hfull : ∀ s ∈ u.segments, s ≠ [])
    (names : List (List Char)) : (withSlash u).appendNames names = u.appendNames names := by
  have hlast : u.segments.getLast? ≠ some [] :=
    fun e => hfull [] (List.mem_of_getLast? e) rfl
  have hdrop : Url.dropEmptyEnd u.segments = u.segments := if_neg fun h => hlast h.2
  have hdrop' : Url.dropEmptyEnd (u.segments ++ [[]]) = u.segments := by
    have htwo : 2 ≤ (u.segments ++ [[]]).length := by
      rw [List.length_append]
      exact Nat.succ_le_succ (List.length_pos_iff.mpr hu.nonempty)
    rw [Url.dropEmptyEnd, if_pos ⟨htwo, List.getLast?_concat⟩, List.dropLast_concat]
  rw [Url.appendNames, Url.appendNames, hu.path]
  simp only [withSlash, hdrop, hdrop']

end DaprHosting.ResourceManager
