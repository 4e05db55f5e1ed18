import DaprHosting.Installation
import DaprHosting.Proofs.Release.Decision
import DaprHosting.Proofs.Settings.Reading

/-!
# What an installation submits

A request comes with settings that were read from a map, and what is submitted is a map again. Key
by key the second is the first, but for what is forced (`value?_submitted`) and for the control keys
that were used up. `build_submits` says the whole of what a request with a known release comes to;
`control_keys_submitted` says which control keys are left in it.

Nothing here depends on who answers: an installation is built exactly when a release is resolved,
by `build_result_of_cluster`, and from then on it is a function of the request and the release.
-/

namespace DaprHosting.Installation

open Settings

variable {σ : Type}

/-! ## 1. When an installation is built -/

/-- **With cluster scope an installation is built exactly when a release is resolved.** -/
theorem build_result_of_cluster (operator : Operator σ) {request : InstallRequest}
    (h : request.scope = .cluster) (s : σ) :
    (build operator request s).result =
      (Release.resolve operator request.releaseName request.releaseNamespace request.settings
        s).result.map (ofRelease request) := by
  have hscope : ¬ request.scope = .namespaced := by rw [h]; exact nofun
  unfold build
  rw [if_neg hscope, Action.bind_run]
  cases (Release.resolve operator request.releaseName request.releaseNamespace request.settings
    s).result with
  | error e => rfl
  | ok release =>
    -- the warning that may come first is only logged
    dsimp only
    split <;> rfl

/-- A namespace scope never comes to an installation. -/
theorem scope_of_build {operator : Operator σ} {request : InstallRequest} {s : σ}
    {installation : Installation} (h : (build operator request s).result = .ok installation) :
    request.scope = .cluster := by
  cases hs : request.scope with
  | cluster => rfl
  | namespaced =>
    unfold build at h
    rw [if_pos hs] at h
    cases h

/-! ## 2. What is forced -/

/-- The type of the cluster is none, or that of a managed one in any case of its letters. -/
def Managed (clusterType : String) : Prop :=
  Text.lowerAscii clusterType = "" ∨ Text.lowerAscii clusterType = managedClusters

instance (clusterType : String) : Decidable (Managed clusterType) := instDecidableOr

theorem lowerAscii_eq_empty_iff {t : String} : Text.lowerAscii t = "" ↔ t = "" := by
  constructor
  · intro h
    have hl := congrArg String.toList h
    rw [Text.lowerAscii, String.toList_ofList] at hl
    exact String.toList_eq_nil_iff.mp (List.map_eq_nil_iff.mp hl)
  · rintro rfl
    rfl

theorem managed_iff {clusterType : String} :
    Managed clusterType ↔ clusterType = "" ∨ Text.lowerAscii clusterType = managedClusters := by
  rw [Managed, lowerAscii_eq_empty_iff]

theorem value?_forRelease (release : Release) (s : Settings) (key : String) :
    (forRelease release s).value? key =
      if release.alreadyInstalled = true ∧ key = haEnabledKey then some "false"
      else s.value? key := by
  unfold forRelease
  cases release.alreadyInstalled with
  | false => simp
  | true =>
    rw [if_pos rfl, value?_with_haEnabled]
    simp [flagText]

theorem value?_forClusterType (clusterType : String) (s : Settings) (key : String) :
    (forClusterType clusterType s).value? key =
      if Managed clusterType ∧ key = clusterTypeKey then some managedClusters
      else s.value? key := by
  unfold forClusterType
  by_cases h : Managed clusterType
  · rw [if_pos (managed_iff.mp h), value?_with_clusterType]
    simp [h]
  · rw [if_neg (mt managed_iff.mpr h)]
    simp [h]

/-- **Key by key, what is submitted**: what is forced, or else what the decision left. -/
theorem value?_submitted (request : InstallRequest) (release : Release) (key : String) :
    (submitted request release).value? key =
      if Managed request.clusterType ∧ key = clusterTypeKey then some managedClusters
      else if release.alreadyInstalled = true ∧ key = haEnabledKey then some "false"
      else (Release.decide request.settings).2.value? key := by
  rw [submitted, value?_forClusterType, value?_forRelease]

theorem extra_submitted (request : InstallRequest) (release : Release) :
    (submitted request release).extra = request.settings.extra := by
  rw [← Release.extra_left request.settings]
  unfold submitted forClusterType forRelease
  split <;> split <;> rfl

/-! ## 3. What is submitted -/

/-- A map gives both keys that name a release, and no skip flag overrides them. -/
def NamesRelease (m : OrderedMap String) : Prop :=
  (m.get? skipExistingCheckKey).map Text.lowerAscii ≠ some "true" ∧
    (m.get? existingReleaseNameKey).isSome = true ∧
    (m.get? existingReleaseNamespaceKey).isSome = true

instance (m : OrderedMap String) : Decidable (NamesRelease m) := instDecidableAnd

section Written

variable {m : OrderedMap String} {request : InstallRequest}

/-- The keys that were read from a map decide exactly when it names a release. -/
theorem byReleaseKeys_iff {s : Settings} (h : Read m s) :
    Release.byReleaseKeys s = true ↔ NamesRelease m := by
  have hskip : s.skipExistingCheck.map flagText =
      (m.get? skipExistingCheckKey).map Text.lowerAscii := h.value skipExistingCheckKey
  have hname : s.existingReleaseName = (m.get? existingReleaseNameKey).map id :=
    h.value existingReleaseNameKey
  have hns : s.existingReleaseNamespace = (m.get? existingReleaseNamespaceKey).map id :=
    h.value existingReleaseNamespaceKey
  rw [NamesRelease, ← hskip, Release.byReleaseKeys, Release.bySkipFlag, hname, hns,
    Option.map_id_fun, id, id, Bool.and_eq_true, Bool.and_eq_true, and_assoc]
  refine and_congr_left' ?_
  rcases s.skipExistingCheck with _ | _ | _ <;> decide

theorem apart_submitted (h : Read m request.settings) (release : Release) :
    (submitted request release).Apart := by
  intro key hkey
  rw [extra_submitted] at hkey
  exact h.apart key hkey

/-- **What is submitted under a key**, as a map, of settings that were read from one. -/
theorem get?_submitted (h : Read m request.settings) (release : Release) (key : String) :
    (submitted request release).toMap.get? key =
      if Managed request.clusterType ∧ key = clusterTypeKey then some managedClusters
      else if release.alreadyInstalled = true ∧ key = haEnabledKey then some "false"
      else if Release.Taken request.settings key then none
      else (m.get? key).map (canonical key) := by
  rw [(apart_submitted h release).get?_toMap, value?_submitted, Release.value?_left, h.value]

/-- No control key is forced. -/
theorem get?_submitted_of_mem_controlKeys (h : Read m request.settings) (release : Release)
    {key : String} (hkey : key ∈ controlKeys) :
    (submitted request release).toMap.get? key =
      if Release.Taken request.settings key then none else (m.get? key).map (canonical key) := by
  have htype : key ≠ clusterTypeKey := by
    rintro rfl
    exact absurd hkey (by decide)
  have hha : key ≠ haEnabledKey := by
    rintro rfl
    exact absurd hkey (by decide)
  rw [get?_submitted h, if_neg fun h => htype h.2, if_neg fun h => hha h.2]

/-- What no decision is made on is submitted as it was given. -/
theorem entries_submitted_unknown (h : Read m request.settings) (release : Release) :
    (submitted request release).toMap.entries.filter unknown = m.entries.filter unknown := by
  rw [(apart_submitted h release).entries_toMap_unknown, extra_submitted, h.extra]

end Written

/-- **What an installation submits** for a request whose settings were read from a map, once its
    release is known. -/
structure Submission (m : OrderedMap String) (request : InstallRequest) (release : Release)
    (installation : Installation) : Prop where
  /-- The extension goes under the name of the release. -/
  releaseName : installation.releaseName = release.name
  /-- Its scope is the cluster, with the namespace of the release. -/
  scope : installation.extension.scope =
    { cluster := some ⟨release.inNamespace⟩, inNamespace := none }
  /-- The train is the one asked for, or else the stable one. -/
  releaseTrain : installation.extension.releaseTrain = some (request.releaseTrain.getD "stable")
  /-- High availability is off where the release is there already, and otherwise as given. -/
  haEnabled : installation.extension.settings.get? haEnabledKey =
    if release.alreadyInstalled then some "false"
    else (m.get? haEnabledKey).map Text.lowerAscii
  /-- The cluster type of a managed cluster has its one spelling; any other is as given. -/
  clusterType : installation.extension.settings.get? clusterTypeKey =
    if Managed request.clusterType then some "managedclusters" else m.get? clusterTypeKey
  /-- All other settings are the given ones, the control keys apart. -/
  others : ∀ key, key ≠ haEnabledKey → key ≠ clusterTypeKey → key ∉ controlKeys →
    installation.extension.settings.get? key = (m.get? key).map (canonical key)
  /-- Those that no decision is made on keep their order. -/
  order : installation.extension.settings.entries.filter unknown = m.entries.filter unknown
  /-- The rest of the request is handed on, and there is no identity. -/
  passed : installation.extension.extensionType = request.extensionType ∧
    installation.extension.autoUpgradeMinorVersion = request.autoUpgradeMinorVersion ∧
    installation.extension.version = request.version ∧
    installation.extension.protectedSettings = request.protectedSettings ∧
    installation.extension.identity = none

theorem submission_ofRelease {m : OrderedMap String} {request : InstallRequest}
    (h : Read m request.settings) (release : Release) :
    Submission m request release (ofRelease request release) := by
  have hget := get?_submitted h release
  have hleft : ∀ {key}, key ∉ controlKeys → ¬ Release.Taken request.settings key :=
    fun hkey ht => hkey ht.mem_controlKeys
  constructor
  case releaseName => rfl
  case scope => rfl
  case releaseTrain => rfl
  case haEnabled =>
    refine (hget haEnabledKey).trans ?_
    rw [if_neg fun h => absurd h.2 (by decide), if_neg (hleft (by decide))]
    simp only [and_true]
    rfl
  case clusterType =>
    refine (hget clusterTypeKey).trans ?_
    rw [if_neg (c := release.alreadyInstalled = true ∧ _) fun h => absurd h.2 (by decide),
      if_neg (hleft (by decide))]
    rw [canonical_of_notMem (by decide), Option.map_id_fun, id]
    simp only [and_true]
    rfl
  case others =>
    intro key hha htype hkey
    refine (hget key).trans ?_
    rw [if_neg fun h => htype h.2, if_neg fun h => hha h.2, if_neg (hleft hkey)]
  case order => exact entries_submitted_unknown h release
  case passed => exact ⟨rfl, rfl, rfl, rfl, rfl⟩

/-! ## 4. Requests -/

/-- A request for which nothing is given but its settings. -/
def plainRequest (settings : Settings) : InstallRequest where
  extensionType := defaultExtensionType
  releaseName := Release.defaultName
  releaseNamespace := none
  clusterType := ""
  scope := .cluster
  autoUpgradeMinorVersion := none
  releaseTrain := none
  version := none
  settings := settings
  protectedSettings := .empty

/-- **What a request submits.** With cluster scope, and settings that were read from a map, a
    request comes to its submission for the release it is resolved to, and fails only where no
    release comes about; whoever answers. -/
theorem build_submits (m : OrderedMap String) (request : InstallRequest)
    (hread : Settings.ofMap m = .ok request.settings) (hscope : request.scope = .cluster)
    (operator : Operator σ) (s : σ) :
    match (Release.resolve operator request.releaseName request.releaseNamespace request.settings
      s).result with
    | .ok release => ∃ installation, (build operator request s).result = .ok installation ∧
        Submission m request release installation
    | .error e => (build operator request s).result = .error e := by
  have hbuild := build_result_of_cluster operator hscope s
  cases hr : (Release.resolve operator request.releaseName request.releaseNamespace
    request.settings s).result with
  | ok release =>
    rw [hr] at hbuild
    exact ⟨_, hbuild, submission_ofRelease (read_of_ok hread) release⟩
  | error e =>
    rw [hr] at hbuild
    exact hbuild

/-- A release that is there, named by its keys: high availability is forced off, and the namespace is
    that of the release. -/
theorem build_submits_existing_release :
    let m := OrderedMap.ofList
      [("dapr.logLevel", "debug"), (haEnabledKey, "True"), (existingReleaseNameKey, "dapr-old"),
        (existingReleaseNamespaceKey, "infra")]
    let request := plainRequest
      { haEnabled := some true, existingReleaseName := some "dapr-old",
        existingReleaseNamespace := some "infra",
        extra := OrderedMap.ofList [("dapr.logLevel", "debug")] }
    ∃ installation, (build Operator.nobody request ()).result = .ok installation ∧
      Submission m request ⟨"dapr-old", some "infra", true⟩ installation := by
  intro m request
  exact build_submits m request rfl rfl Operator.nobody ()

/-- **Which control keys are submitted.** The skip flag never is; the keys that name a release are
    as they were given, unless they decided: then neither is left. -/
theorem control_keys_submitted (m : OrderedMap String) (request : InstallRequest)
    (hread : Settings.ofMap m = .ok request.settings) (operator : Operator σ) (s : σ)
    (installation : Installation) (hbuilt : (build operator request s).result = .ok installation) :
    installation.extension.settings.get? skipExistingCheckKey = none ∧
      ∀ key ∈ releaseKeys,
        installation.extension.settings.get? key = if NamesRelease m then none else m.get? key := by
  have hm := read_of_ok hread
  rw [build_result_of_cluster operator (scope_of_build hbuilt)] at hbuilt
  cases hr : (Release.resolve operator request.releaseName request.releaseNamespace
    request.settings s).result with
  | error e =>
    rw [hr] at hbuilt
    cases hbuilt
  | ok release =>
    rw [hr] at hbuilt
    cases hbuilt
    constructor
    · have hget := get?_submitted_of_mem_controlKeys hm release (List.mem_cons_self ..)
      exact hget.trans (if_pos (.inl rfl))
    · intro key hkey
      have hflag : key ∉ flagKeys := (by decide : ∀ k ∈ releaseKeys, k ∉ flagKeys) key hkey
      have hget := get?_submitted_of_mem_controlKeys hm release (List.mem_cons_of_mem _ hkey)
      refine hget.trans ?_
      rw [canonical_of_notMem hflag, Option.map_id_fun, id]
      simp only [Release.taken_iff_of_mem_releaseKeys hkey, byReleaseKeys_iff hm]

/-- Two keys that decide, under a skip flag that is off. -/
theorem control_keys_submitted_deciding_keys :
    let m := OrderedMap.ofList
      [(skipExistingCheckKey, "FALSE"), (existingReleaseNameKey, "dapr-old"),
        (existingReleaseNamespaceKey, "infra")]
    let request := plainRequest
      { skipExistingCheck := some false, existingReleaseName := some "dapr-old",
        existingReleaseNamespace := some "infra" }
    NamesRelease m ∧ ∃ installation,
      (build Operator.nobody request ()).result = .ok installation ∧
        ∀ key ∈ releaseKeys, installation.extension.settings.get? key = none := by
  intro m request
  have hnames : NamesRelease m := by decide
  refine ⟨hnames, _, rfl, fun key hkey => ?_⟩
  have h := (control_keys_submitted m request rfl Operator.nobody () _ rfl).2 key hkey
  rwa [if_pos hnames] at h

/-- One key alone decides nothing, and is submitted: control keys are not always used up. -/
theorem lone_release_key_submitted :
    ¬ ∀ (m : OrderedMap String) (request : InstallRequest) (operator : Operator Script)
      (s : Script) (installation : Installation), Settings.ofMap m = .ok request.settings →
      (build operator request s).result = .ok installation →
      ∀ key ∈ controlKeys, installation.extension.settings.get? key = none := by
  intro h
  have hnone := h (OrderedMap.ofList [(existingReleaseNameKey, "dapr-old")])
    (plainRequest { existingReleaseName := some "dapr-old" }) .scripted ⟨[.yesNo false], []⟩ _
    rfl rfl existingReleaseNameKey (by decide)
  exact absurd hnone (by decide)

end DaprHosting.Installation
