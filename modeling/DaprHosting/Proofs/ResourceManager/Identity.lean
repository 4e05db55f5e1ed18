import DaprHosting.Proofs.ResourceManager.Address
import DaprHosting.Proofs.ResourceManager.Conversation

/-!
# The id of an environment and its URL

The id of an environment is its names joined by slashes, as they are, and it goes into the payload
of a service; the URL of the environment has the same names as segments of its path, encoded.
Where nothing is encoded the two agree: the path is that of the endpoint and then the id
(`path_environmentUrl`). An id is that of one environment only, by `environmentId_inj`, since of
all its names only the last may hold a slash.
-/

namespace DaprHosting

/-! ## 1. Texts of paths -/

namespace Url

/-- **Segments are told from their text** when none but the last holds a slash. -/
theorem segmentChars_inj {ss ts : List (List Char)} (hss : ∀ s ∈ ss.dropLast, '/' ∉ s)
    (hts : ∀ t ∈ ts.dropLast, '/' ∉ t) (hlen : ss.length = ts.length)
    (h : segmentChars ss = segmentChars ts) : ss = ts := by
  induction ss generalizing ts with
  | nil => exact (List.length_eq_zero_iff.mp hlen.symm).symm
  | cons s ss ih =>
    rcases ts with _ | ⟨t, ts⟩
    · cases hlen
    have hchars : s ++ segmentChars ss = t ++ segmentChars ts := (List.cons.inj h).2
    have hrest : ss.length = ts.length := Nat.succ.inj hlen
    rcases ss with _ | ⟨s', ss⟩
    · rw [List.length_eq_zero_iff.mp hrest.symm] at hchars ⊢
      simpa [segmentChars] using hchars
    rcases ts with _ | ⟨t', ts⟩
    · cases hrest
    have hsplit : ∀ {u : List Char} (v : List Char) (us : List (List Char)), '/' ∉ u →
        Text.cutAt '/' (u ++ segmentChars (v :: us)) = (u, some (v ++ segmentChars us)) :=
      fun v us hu => Text.cutAt_append _ hu
    have hcut := congrArg (Text.cutAt '/') hchars
    rw [hsplit s' ss (hss s (List.mem_cons_self ..)), hsplit t' ts (hts t (List.mem_cons_self ..)),
      Prod.mk.injEq, Option.some.injEq] at hcut
    obtain ⟨rfl, hcut⟩ := hcut
    rw [ih (fun u hu => hss u (List.mem_cons_of_mem _ hu))
      (fun u hu => hts u (List.mem_cons_of_mem _ hu)) hrest (congrArg ('/' :: ·) hcut)]

/-- A path without the slash at its end. -/
def withoutFinalSlash (cs : List Char) : List Char :=
  if cs.getLast? = some '/' then cs.dropLast else cs

/-- An empty segment at the end of a path is a slash at the end of its text. -/
theorem segmentChars_withoutEmptyEnd {ss : List (List Char)} (hss : ∀ s ∈ ss, Unbroken s) :
    segmentChars (withoutEmptyEnd ss) = withoutFinalSlash (segmentChars ss) := by
  rcases List.eq_nil_or_concat ss with rfl | ⟨front, s, rfl⟩
  · rfl
  rw [List.concat_eq_append] at hss ⊢
  have hchars : segmentChars (front ++ [s]) = segmentChars front ++ '/' :: s := by
    simp [segmentChars]
  have hs : Unbroken s := hss s (List.mem_append_right _ (List.mem_singleton_self s))
  rw [hchars]
  cases s with
  | nil =>
    rw [withoutEmptyEnd, if_pos List.getLast?_concat, List.dropLast_concat, withoutFinalSlash,
      if_pos List.getLast?_concat, List.dropLast_concat]
  | cons c cs =>
    have hlast : (segmentChars front ++ '/' :: c :: cs).getLast? ≠ some '/' := by
      intro h
      rw [List.getLast?_append, List.getLast?_cons_cons] at h
      have hmem : '/' ∈ c :: cs := List.mem_of_getLast? (by simpa using h)
      exact (hs '/' hmem).1 rfl
    rw [withoutEmptyEnd, if_neg (by simp), withoutFinalSlash, if_neg hlast, hchars]

/-! ## 2. Names that are written as they are -/

/-- **A name that is written as it is**: it is no dot segment, and no character of it is encoded. -/
def Plain (name : List Char) : Prop :=
  name ≠ ['.'] ∧ name ≠ ['.', '.'] ∧ ∀ c ∈ name, segmentSet true c = false

instance (name : List Char) : Decidable (Plain name) :=
  have : Decidable (∀ c ∈ name, segmentSet true c = false) := List.decidableBAll _ _
  instDecidableAnd

/-- What is dropped from a name is no character that is written as it is. -/
theorem segmentSet_of_isSkipped {c : Char} (h : isSkipped c = true) : segmentSet true c = true := by
  have hc : (c = '\t' ∨ c = '\n') ∨ c = '\r' := by simpa [isSkipped] using h
  rcases hc with (rfl | rfl) | rfl <;> decide

theorem Plain.isName {name : List Char} (h : Plain name) : IsName name := by
  refine ⟨h.1, h.2.1, fun c hc => Bool.eq_false_iff.mpr fun hskipped => ?_⟩
  have hset := segmentSet_of_isSkipped hskipped
  rw [h.2.2 c hc] at hset
  cases hset

theorem written_of_isName {name : List Char} (h : IsName name) :
    written name = percentEncode (segmentSet true) name := by
  rw [written, kept_eq_self_iff.mpr h.2.2]

theorem Plain.written_eq {name : List Char} (h : Plain name) : written name = name := by
  have hself : ∀ c ∈ name, encodeChar (segmentSet true) c = [c] := fun c hc =>
    if_neg (Bool.eq_false_iff.mp (h.2.2 c hc))
  rw [written_of_isName h.isName, percentEncode, List.flatMap_congr hself, List.flatMap_singleton']

theorem segmentChars_append (ss ts : List (List Char)) :
    segmentChars (ss ++ ts) = segmentChars ss ++ segmentChars ts := List.flatMap_append

/-- **The text of a path with names appended** is the text that it had, without a slash at its end,
    and each name behind a slash, as it is written. -/
theorem toChars_path_appendNames {u : Url} (hu : Web u)
    (hinner : ∀ s ∈ u.segments.dropLast, s ≠ []) {first : List Char} (hfirst : IsName first)
    (hne : written first ≠ []) {names : List (List Char)} (hnames : ∀ n ∈ names, IsName n) :
    (u.appendNames (first :: names)).path.toChars =
      withoutFinalSlash u.path.toChars ++ segmentChars ((first :: names).map written) := by
  have hroot : withoutEmptyEnd u.segments ++ [written first] ≠ [[]] := by
    intro h
    obtain ⟨-, hlast⟩ := List.append_inj' (h.trans (List.nil_append [[]]).symm) rfl
    exact hne (List.cons.inj hlast).1
  have hsegments := segments_appendNames hu hinner hfirst names
  rw [appendNames_of_isName hu.scheme hnames (List.concat_ne_nil _ _) hroot, List.append_assoc]
    at hsegments
  rw [(web_appendNames hu (first :: names)).path, hsegments, hu.path, Path.toChars, Path.toChars,
    segmentChars_append, segmentChars_withoutEmptyEnd hu.unbroken]
  rfl

end Url

namespace ResourceManager

open Http Provision
open Url (IsName IsWebScheme Web Plain segmentChars withoutEmptyEnd withoutFinalSlash written)

/-- An identifier is written as it is, and holds no slash. -/
theorem plain_toText (u : Uuid) : Plain u.toText.toList ∧ '/' ∉ u.toText.toList := by
  have hchars : u.toText.toList = u.toChars := String.toList_ofList
  have hdigit : ∀ n < 16, Url.segmentSet true (Nat.digitChar n) = false := by decide
  have hset : ∀ c ∈ u.toText.toList, Url.segmentSet true c = false := by
    intro c hc
    rcases Uuid.mem_toChars (hchars ▸ hc) with rfl | ⟨n, hn, rfl⟩
    · rfl
    · exact hdigit n hn
  obtain ⟨hdot, hdots, -⟩ := isName_toText u
  refine ⟨⟨hdot, hdots, hset⟩, fun hslash => ?_⟩
  cases hset '/' hslash

/-! ## 3. The id -/

theorem toList_environmentId (m : ResourceManager) (group environment : String) :
    (m.environmentId group environment).toList =
      segmentChars ((m.environmentNames group environment).map String.toList) := by
  rw [environmentId, String.toList_append, String.toList_intercalate]
  exact (Url.segmentChars_cons _ _).symm

/-- **An id is that of one environment of one subscription**, where the group holds no slash. -/
theorem environmentId_inj {m m' : ResourceManager} {group group' environment environment' : String}
    (hgroup : '/' ∉ group.toList) (hgroup' : '/' ∉ group'.toList)
    (h : m.environmentId group environment = m'.environmentId group' environment') :
    m.subscriptionId = m'.subscriptionId ∧ group = group' ∧ environment = environment' := by
  have hfront : ∀ (n : ResourceManager) (g e : String), '/' ∉ g.toList →
      ∀ s ∈ ((n.environmentNames g e).map String.toList).dropLast, '/' ∉ s := by
    intro n g e hg
    have hid := (plain_toText n.subscriptionId).2
    simp [environmentNames, groupNames, provider, hg, hid]
  have hchars := congrArg String.toList h
  rw [toList_environmentId, toList_environmentId] at hchars
  have hlen : ∀ (n : ResourceManager) (g e : String),
      ((n.environmentNames g e).map String.toList).length = 8 := fun _ _ _ => rfl
  have hnames := Url.segmentChars_inj (hfront m group environment hgroup)
    (hfront m' group' environment' hgroup') ((hlen m _ _).trans (hlen m' _ _).symm) hchars
  have haddress : (Target.environment group environment).address m.subscriptionId =
      (Target.environment group' environment').address m'.subscriptionId :=
    List.map_injective_iff.mpr (fun _ _ => String.toList_inj.mp) hnames
  obtain ⟨hid, htarget⟩ := Target.address_inj haddress
  cases htarget
  exact ⟨hid, rfl, rfl⟩

/-! ## 4. Paths -/

section Web

variable {m : ResourceManager} (hweb : Web m.endpoint)
  (hinner : ∀ s ∈ m.endpoint.segments.dropLast, s ≠ [])

include hweb hinner

/-- **The path of a URL** is that of the endpoint, without a slash at its end, and the names of the
    address as they are written. -/
theorem path_url {t : Target} (ht : t.Named) :
    (t.url m).path.toChars = withoutFinalSlash m.endpoint.path.toChars ++
      segmentChars ((t.address m.subscriptionId).map (written ∘ String.toList)) := by
  have hnames := (isName_address_iff m.subscriptionId t).mpr ht
  have hfirst : IsName "subscriptions".toList := by decide
  have hpath := Url.toChars_path_appendNames hweb hinner hfirst (by decide) hnames
  rw [← List.map_cons, ← t.address_eq_cons, List.map_map] at hpath
  rw [t.url_eq]
  exact hpath

/-- **The path of an environment is its id**, below the endpoint, where nothing is encoded. -/
theorem path_environmentUrl {group environment : String} (hgroup : Plain group.toList)
    (henvironment : Plain environment.toList) :
    (m.environmentUrl group environment).path.toChars =
      withoutFinalSlash m.endpoint.path.toChars ++ (m.environmentId group environment).toList := by
  have hnamed : (Target.environment group environment).Named := by
    simp only [Target.Named, Target.texts, List.mem_cons, List.not_mem_nil, or_false,
      forall_eq_or_imp, forall_eq]
    exact ⟨hgroup.isName, henvironment.isName⟩
  have hplain : ∀ s ∈ (Target.environment group environment).address m.subscriptionId,
      Plain s.toList := by
    have hfixed : ∀ s ∈ ["subscriptions", "resourceGroups", "providers", "Microsoft.App",
        "managedEnvironments"], Plain s.toList := by decide
    have hid := (plain_toText m.subscriptionId).1
    simp only [List.mem_cons, List.not_mem_nil, or_false, forall_eq_or_imp, forall_eq] at hfixed
    obtain ⟨h₁, h₂, h₃, h₄, h₅⟩ := hfixed
    simp only [Target.address, List.mem_cons, List.not_mem_nil, or_false, forall_eq_or_imp,
      forall_eq]
    exact ⟨h₁, hid, h₂, hgroup, h₃, h₄, h₅, henvironment⟩
  have hwritten : ((Target.environment group environment).address m.subscriptionId).map
      (written ∘ String.toList) = (m.environmentNames group environment).map String.toList :=
    List.map_congr_left fun s hs => (hplain s hs).written_eq
  have hpath := path_url hweb hinner hnamed
  rw [hwritten, ← toList_environmentId] at hpath
  exact hpath

/-- The path of a component is that of its environment with two names behind it. -/
theorem path_componentUrl {group environment name : String} (hgroup : IsName group.toList)
    (henvironment : IsName environment.toList) (hname : IsName name.toList) :
    (m.componentUrl group environment name).path.toChars =
      (m.environmentUrl group environment).path.toChars ++ "/daprComponents/".toList ++
        Url.percentEncode (Url.segmentSet true) name.toList := by
  have henv : (Target.environment group environment).Named := by
    simp only [Target.Named, Target.texts, List.mem_cons, List.not_mem_nil, or_false,
      forall_eq_or_imp, forall_eq]
    exact ⟨hgroup, henvironment⟩
  have hcomponent : (Target.component group environment name).Named := by
    simp only [Target.Named, Target.texts, List.mem_cons, List.not_mem_nil, or_false,
      forall_eq_or_imp, forall_eq]
    exact ⟨hgroup, henvironment, hname⟩
  have haddress : (Target.component group environment name).address m.subscriptionId =
      (Target.environment group environment).address m.subscriptionId ++
        ["daprComponents", name] := rfl
  have hlast : segmentChars (["daprComponents", name].map (written ∘ String.toList)) =
      "/daprComponents/".toList ++ written name.toList := by
    have hfixed : written "daprComponents".toList = "daprComponents".toList :=
      Plain.written_eq (by decide)
    simp only [List.map_cons, List.map_nil, Function.comp_apply, hfixed, segmentChars,
      List.flatMap_cons, List.flatMap_nil, List.append_nil]
    rfl
  have hpath := path_url hweb hinner hcomponent
  rw [haddress, List.map_append, Url.segmentChars_append, ← List.append_assoc,
    ← path_url hweb hinner henv, hlast, Url.written_of_isName hname, ← List.append_assoc] at hpath
  exact hpath

end Web

/-! ## 5. Payloads -/

/-- **Every service is created with the id of the environment asked for.** -/
theorem Provisioning.document_of_mem {m : ResourceManager} {location : Option String}
    {component : ComponentKind} {service : ServiceKind} {place : Place} {t : Talk}
    (h : Provisioning m location component service place t) {document : Json}
    {a : Option Response} (hmem : (.createService document, a) ∈ t) :
    ∃ l, document = serviceDocument m service place l := by
  obtain ⟨before, after, rfl⟩ := List.append_of_mem hmem
  cases (h.sound before _ after rfl).1 with
  | @createService l => exact ⟨l, rfl⟩

/-- **The id of an environment and its URL say the same.** An id is that of one environment of one
    subscription, if the group holds no slash. Where group and environment are written as they are,
    the path of the environment's URL is that of the endpoint and then the id, and the path of a
    component has two names more. And this id is in the document of every service that is created
    in a run of provisioning. -/
theorem environment_has_one_identity (m : ResourceManager) :
    (∀ (m' : ResourceManager) (group group' environment environment' : String),
      '/' ∉ group.toList → '/' ∉ group'.toList →
      m.environmentId group environment = m'.environmentId group' environment' →
      m.subscriptionId = m'.subscriptionId ∧ group = group' ∧ environment = environment') ∧
    (∀ text, Url.read? text = some m.endpoint → IsWebScheme m.endpoint.scheme →
      (∀ s ∈ m.endpoint.segments.dropLast, s ≠ []) →
      ∀ group environment : String, Plain group.toList → Plain environment.toList →
        (m.environmentUrl group environment).path.toChars =
            withoutFinalSlash m.endpoint.path.toChars ++
              (m.environmentId group environment).toList ∧
          ∀ name : String, IsName name.toList →
            (m.componentUrl group environment name).path.toChars =
              (m.environmentUrl group environment).path.toChars ++ "/daprComponents/".toList ++
                Url.percentEncode (Url.segmentSet true) name.toList) ∧
    ∀ (network : Network) (location : Option String) (component : ComponentKind)
      (service : ServiceKind) (place : Place) (w : Wire), ∃ t : Talk,
        Exchanged network w (exchanges m component service place t)
          (provision (m.plane network) location component service place w).state ∧
        ∀ document a, (.createService document, a) ∈ t → ∃ l, document =
          (⟨some l, m.environmentId place.group place.environment, service⟩ :
            ServicePayload).toJson := by
  refine ⟨?_, ?_, ?_⟩
  · intro m' group group' environment environment' hgroup hgroup' h
    exact environmentId_inj hgroup hgroup' h
  · intro text hread hscheme hinner group environment hgroup henvironment
    have hweb := Url.web_of_read hread hscheme
    exact ⟨path_environmentUrl hweb hinner hgroup henvironment,
      fun name => path_componentUrl hweb hinner hgroup.isName henvironment.isName⟩
  · intro network location component service place w
    obtain ⟨t, ht, -⟩ := provision_talked m network location component service place w
    have hprovisioning : Provisioning m location component service place t := ht.provisioning
    exact ⟨t, ht.exchanged, fun _ _ hmem => hprovisioning.document_of_mem hmem⟩

/-- An environment below an endpoint with a path and a slash behind it. -/
theorem environment_has_one_identity_below_path :
    let endpoint : Url :=
      ⟨"https".toList, some ⟨[], "management.example.com".toList, none⟩,
        .segments ["gateway".toList, []], none, none⟩
    let m : ResourceManager := ⟨endpoint, ⟨0⟩, "2023-05-01", ""⟩
    (m.environmentUrl "rg" "dev").path.toChars =
        "/gateway".toList ++ (m.environmentId "rg" "dev").toList ∧
      ∀ group environment, '/' ∉ group.toList →
        m.environmentId "rg" "dev" = m.environmentId group environment →
        "rg" = group ∧ "dev" = environment := by
  intro endpoint m
  have hread : Url.read? "https://management.example.com/gateway/" = some endpoint := by
    decide +kernel
  obtain ⟨hids, hpaths, -⟩ := environment_has_one_identity m
  have hpath := (hpaths _ hread (by decide +kernel) (by decide +kernel) "rg" "dev" (by decide)
    (by decide)).1
  have hfront : withoutFinalSlash m.endpoint.path.toChars = "/gateway".toList := by decide
  rw [hfront] at hpath
  refine ⟨hpath, fun group environment hgroup h => ?_⟩
  exact (hids m "rg" group "dev" environment (by decide) hgroup h).2

end ResourceManager

end DaprHosting
