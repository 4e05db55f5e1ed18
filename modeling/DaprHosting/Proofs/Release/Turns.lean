import DaprHosting.Proofs.Operator.Questions
import DaprHosting.Proofs.Release.Decision

/-!
# One release after another

Requests for a release share their settings. `Turn` is one request of a run with what there was
before and after it, and `Turn.Effect` is what it may do: `resolveAll_takes_turns` says that every
turn of every run keeps to it, whoever answers. Since the flag and the keys that decide are used up
on the way, each decides at most once in a run, and in all other turns somebody is asked.

One turn is `effect_of_resolve`; the run is by induction on the requests, each turn starting where
the one before it ended.
-/

namespace DaprHosting.Release

variable {σ : Type}

/-! ## 1. Turns -/

/-- The settings at a moment, and the questions asked so far. -/
structure Moment where
  settings : Settings
  asked : List Question

/-- A request, with what there was before it and after it. -/
structure Turn where
  request : Request
  before : Moment
  result : Except Error Release
  after : Moment

/-- The turn of a step that was made at a moment. -/
def Turn.ofStep (m : Moment) (r : Request) (st : Step (Questioned σ)) : Turn :=
  ⟨r, m, st.outcome.result, ⟨st.settings, st.outcome.state.asked⟩⟩

/-- The turns of a run that starts at a moment: each starts where the one before it ended. -/
def turns (m : Moment) : List Request → List (Step (Questioned σ)) → List Turn
  | r :: rs, st :: sts => .ofStep m r st :: turns (Turn.ofStep m r st).after rs sts
  | _, _ => []

/-- **What a turn may do.** -/
structure Turn.Effect (t : Turn) : Prop where
  /-- The skip flag is always used up. -/
  unset : t.after.settings.skipExistingCheck = none
  /-- The keys that name a release are used up when they decide. -/
  cleared : byReleaseKeys t.before.settings = true →
    t.after.settings.existingReleaseName = none ∧ t.after.settings.existingReleaseNamespace = none
  /-- Otherwise they stay as they are, one alone included. -/
  kept : byReleaseKeys t.before.settings = false →
    t.after.settings.existingReleaseName = t.before.settings.existingReleaseName ∧
      t.after.settings.existingReleaseNamespace = t.before.settings.existingReleaseNamespace
  /-- Nothing else changes. -/
  framed : { t.after.settings with
      skipExistingCheck := t.before.settings.skipExistingCheck
      existingReleaseName := t.before.settings.existingReleaseName
      existingReleaseNamespace := t.before.settings.existingReleaseNamespace } = t.before.settings
  /-- A failure is one of asking, and only the flag is gone after it. -/
  failed : ∀ e, t.result = .error e → (∃ cause, e = .prompt cause) ∧
    t.after.settings = { t.before.settings with skipExistingCheck := none }
  /-- By the flag the release is the one requested, and nothing is asked. -/
  skipped : bySkipFlag t.before.settings = true →
    t.result = .ok ⟨t.request.name, t.request.inNamespace, false⟩ ∧ t.after.asked = t.before.asked
  /-- By the keys it is the one they name, and nothing is asked. -/
  named : byReleaseKeys t.before.settings = true →
    ∃ n ns, t.before.settings.existingReleaseName = some n ∧
      t.before.settings.existingReleaseNamespace = some ns ∧
      t.result = .ok ⟨n, some ns, true⟩ ∧ t.after.asked = t.before.asked
  /-- In every other turn it is asked, first of all, whether there is a release. -/
  asked : bySkipFlag t.before.settings = false → byReleaseKeys t.before.settings = false →
    t.before.asked ++ [.confirm confirmQuestion false] <+: t.after.asked

/-! ## 2. One turn -/

section Ways

variable (operator : Operator σ) (name : String) (inNamespace : Option String)

/-- A release is told of and taken. -/
theorem warned_run (release : Release) (s : σ) :
    ((warnDiverging release name inNamespace >>= fun _ => pure release : Action σ Error Release)
        s).result = .ok release ∧
      ((warnDiverging release name inNamespace >>= fun _ => pure release : Action σ Error Release)
        s).state = s := by
  have hwarn := warnDiverging_run (ε := Error) release name inNamespace s
  rw [Action.bind_run_ok (congrArg Outcome.result hwarn), hwarn]
  exact ⟨rfl, rfl⟩

theorem ofDecision_existing (n ns : String) :
    ofDecision operator name inNamespace (.existing n ns) =
      warnDiverging ⟨n, some ns, true⟩ name inNamespace >>= fun _ => pure ⟨n, some ns, true⟩ :=
  rfl

theorem ofDecision_asked :
    ofDecision operator name inNamespace .asked =
      (ask operator name inNamespace).mapError .prompt >>= fun release =>
        warnDiverging release name inNamespace >>= fun _ => pure release :=
  rfl

/-- Asking fails only as the operator does. -/
theorem error_of_asked {s : σ} {e : Error}
    (h : (ofDecision operator name inNamespace .asked s).result = .error e) :
    ∃ cause, e = .prompt cause := by
  rw [ofDecision_asked] at h
  rcases Action.bind_result_eq_error.mp h with hask | ⟨release, -, hwarned⟩
  · rw [Action.mapError_run] at hask
    cases hc : (ask operator name inNamespace s).result with
    | error cause =>
      rw [hc] at hask
      cases hask
      exact ⟨cause, rfl⟩
    | ok release =>
      rw [hc] at hask
      cases hask
  · rw [(warned_run name inNamespace release _).1] at hwarned
    cases hwarned

/-- **Whoever is asked is asked first whether there is a release.** -/
theorem asked_of_asked (q : Questioned σ) :
    q.asked ++ [.confirm confirmQuestion false] <+:
      (ofDecision operator.recording name inNamespace .asked q).state.asked := by
  have hask : q.asked ++ [.confirm confirmQuestion false] <+:
      (ask operator.recording name inNamespace q).state.asked := by
    refine Action.asked_bind (x := operator.recording.confirm confirmQuestion false) (fun b => ?_) q
    cases b with
    | true => exact .bind (.ask _ _) fun _ => .bind (.ask _ _) fun _ => .pure _
    | false => exact .pure _
  refine hask.trans ?_
  rw [ofDecision_asked]
  refine Action.asked_bind
    (x := (ask operator.recording name inNamespace).mapError Error.prompt) (fun release s => ?_) q
  exact ⟨[], by rw [List.append_nil, (warned_run name inNamespace release s).2]⟩

end Ways

/-- **Every turn keeps to its effect.** -/
theorem effect_of_resolve (operator : Operator σ) (settings : Settings) (r : Request)
    (q : Questioned σ) :
    (Turn.ofStep ⟨settings, q.asked⟩ r
      ⟨resolve operator.recording r.name r.inNamespace settings q, (decide settings).2⟩).Effect := by
  unfold resolve Turn.ofStep
  have h := decide_decided settings
  generalize (decide settings).1 = d, (decide settings).2 = left at h ⊢
  cases h with
  | skipped hskip =>
    have hkeys := byReleaseKeys_of_bySkipFlag hskip
    constructor
    case unset => rfl
    case cleared => exact fun h => nomatch hkeys.symm.trans h
    case kept => exact fun _ => ⟨rfl, rfl⟩
    case framed => rfl
    case failed => exact fun e h => nomatch h
    case skipped => exact fun _ => ⟨rfl, rfl⟩
    case named => exact fun h => nomatch hkeys.symm.trans h
    case asked => exact fun h => nomatch hskip.symm.trans h
  | @existing n ns hkeys hn hns =>
    have hskip := bySkipFlag_of_byReleaseKeys hkeys
    obtain ⟨hres, hstate⟩ := warned_run r.name r.inNamespace ⟨n, some ns, true⟩ q
    rw [ofDecision_existing]
    constructor
    case unset => rfl
    case cleared => exact fun _ => ⟨rfl, rfl⟩
    case kept => exact fun h => nomatch hkeys.symm.trans h
    case framed => rfl
    case failed => exact fun e h => nomatch hres.symm.trans h
    case skipped => exact fun h => nomatch hskip.symm.trans h
    case named => exact fun _ => ⟨n, ns, hn, hns, hres, congrArg Questioned.asked hstate⟩
    case asked => exact fun _ h => nomatch hkeys.symm.trans h
  | asked hskip hkeys =>
    constructor
    case unset => rfl
    case cleared => exact fun h => nomatch hkeys.symm.trans h
    case kept => exact fun _ => ⟨rfl, rfl⟩
    case framed => rfl
    case failed => exact fun e h => ⟨error_of_asked _ _ _ h, rfl⟩
    case skipped => exact fun h => nomatch hskip.symm.trans h
    case named => exact fun h => nomatch hkeys.symm.trans h
    case asked => exact fun _ _ => asked_of_asked operator r.name r.inNamespace q

/-! ## 3. All turns of a run -/

section Run

variable (operator : Operator σ)

/-- The turns of requests, with the questions put on record. -/
def history (settings : Settings) (q : Questioned σ) (requests : List Request) : List Turn :=
  turns ⟨settings, q.asked⟩ requests (resolveAll operator.recording settings q requests)

/-- The first turn, and those of the run that goes on from what it leaves. -/
theorem history_cons (settings : Settings) (q : Questioned σ) (r : Request)
    (requests : List Request) :
    history operator settings q (r :: requests) =
      .ofStep ⟨settings, q.asked⟩ r
          ⟨resolve operator.recording r.name r.inNamespace settings q, (decide settings).2⟩ ::
        history operator (decide settings).2
          (resolve operator.recording r.name r.inNamespace settings q).state requests :=
  rfl

/-- **Every turn of a run keeps to its effect.** -/
theorem effect_of_mem_history (requests : List Request) (settings : Settings) (q : Questioned σ) :
    ∀ t ∈ history operator settings q requests, t.Effect := by
  induction requests generalizing settings q with
  | nil => exact fun t ht => absurd ht List.not_mem_nil
  | cons r requests ih =>
    intro t ht
    rw [history_cons] at ht
    rcases List.mem_cons.mp ht with rfl | ht
    · exact effect_of_resolve operator settings r q
    · exact ih _ _ t ht

/-- What a decision keeps of the settings holds before every turn. -/
theorem before_of_mem_history {P : Settings → Prop} (hkeep : ∀ s, P s → P (decide s).2)
    (requests : List Request) {settings : Settings} (h : P settings) (q : Questioned σ) :
    ∀ t ∈ history operator settings q requests, P t.before.settings := by
  induction requests generalizing settings q with
  | nil => exact fun t ht => absurd ht List.not_mem_nil
  | cons r requests ih =>
    intro t ht
    rw [history_cons] at ht
    rcases List.mem_cons.mp ht with rfl | ht
    · exact h
    · exact ih (hkeep _ h) _ t ht

/-- **What is used up decides once**: when deciding leaves settings by which it is `spent`, and
    what is spent stays so, at most one turn is decided. -/
theorem countP_history_le_one (decides : Settings → Bool) (spent : Settings → Prop)
    (huse : ∀ s, decides s = true → spent (decide s).2)
    (hkeep : ∀ s, spent s → spent (decide s).2) (hnot : ∀ s, spent s → decides s = false)
    (requests : List Request) (settings : Settings) (q : Questioned σ) :
    (history operator settings q requests).countP (fun t => decides t.before.settings) ≤ 1 := by
  induction requests generalizing settings q with
  | nil => exact Nat.zero_le 1
  | cons r requests ih =>
    rw [history_cons, List.countP_cons]
    cases hd : decides settings with
    | false =>
      have hrest := ih (decide settings).2
        (resolve operator.recording r.name r.inNamespace settings q).state
      simpa [Turn.ofStep, hd] using hrest
    | true =>
      have hzero : (history operator (decide settings).2
          (resolve operator.recording r.name r.inNamespace settings q).state requests).countP
            (fun t => decides t.before.settings) = 0 := by
        refine List.countP_eq_zero.mpr fun t ht => ?_
        have hspent := before_of_mem_history operator hkeep requests (huse settings hd) _ t ht
        rw [hnot _ hspent]
        exact Bool.false_ne_true
      simp [Turn.ofStep, hd, hzero]

theorem skipExistingCheck_left (s : Settings) : (decide s).2.skipExistingCheck = none := by
  have h := decide_decided s
  generalize (decide s).1 = d, (decide s).2 = left at h ⊢
  cases h <;> rfl

/-- A name that is gone stays gone, and it is gone once the keys have decided. -/
theorem existingReleaseName_left {s : Settings}
    (h : s.existingReleaseName = none ∨ byReleaseKeys s = true) :
    (decide s).2.existingReleaseName = none := by
  have hd := decide_decided s
  generalize (decide s).1 = d, (decide s).2 = left at hd ⊢
  cases hd with
  | skipped hskip =>
    rcases h with h | h
    · exact h
    · rw [byReleaseKeys_of_bySkipFlag hskip] at h
      cases h
  | existing => rfl
  | asked _ hkeys =>
    rcases h with h | h
    · exact h
    · rw [hkeys] at h
      cases h

/-- Keeping a record changes neither the results nor the settings of a run. -/
theorem history_agrees (requests : List Request) (settings : Settings) (q : Questioned σ) :
    ((history operator settings q requests).map fun t => (t.request, t.result, t.after.settings)) =
      (requests.zip (resolveAll operator settings q.state requests)).map fun x =>
        (x.1, x.2.outcome.result, x.2.settings) := by
  induction requests generalizing settings q with
  | nil => rfl
  | cons r requests ih =>
    obtain ⟨hres, -, hstate⟩ :=
      resolve_agrees operator.recording_agrees r.name r.inNamespace settings q q.state rfl
    rw [history_cons, List.map_cons, ih, hstate]
    simp only [Turn.ofStep, hres]
    rfl

end Run

/-- The calls of a run are as many as its requests. -/
theorem length_resolveAll (operator : Operator σ) (requests : List Request) (settings : Settings)
    (s : σ) : (resolveAll operator settings s requests).length = requests.length := by
  induction requests generalizing settings s with
  | nil => rfl
  | cons r requests ih => exact congrArg (· + 1) (ih _ _)

/-! ## 4. Runs -/

/-- **Runs take turns.** Whoever answers, and however many requests there are on the same settings:
    the run has a turn for each request, with the result and the settings that it leaves; every
    turn keeps to its effect; the skip flag decides at most one turn, and so do the keys that name a
    release. -/
theorem resolveAll_takes_turns (operator : Operator σ) (settings : Settings) (s : σ)
    (requests : List Request) :
    let ts := turns ⟨settings, []⟩ requests
      (resolveAll operator.recording settings ⟨s, []⟩ requests)
    let steps := resolveAll operator settings s requests
    steps.length = requests.length ∧
      (ts.map fun t => (t.request, t.result, t.after.settings)) =
        ((requests.zip steps).map fun x => (x.1, x.2.outcome.result, x.2.settings)) ∧
      (∀ t ∈ ts, t.Effect) ∧
      ts.countP (fun t => bySkipFlag t.before.settings) ≤ 1 ∧
      ts.countP (fun t => byReleaseKeys t.before.settings) ≤ 1 := by
  intro ts steps
  refine ⟨length_resolveAll operator requests settings s,
    history_agrees operator requests settings ⟨s, []⟩,
    effect_of_mem_history operator requests settings ⟨s, []⟩, ?_, ?_⟩
  · refine countP_history_le_one operator bySkipFlag (fun s => s.skipExistingCheck = none)
      (fun s _ => skipExistingCheck_left s) (fun s _ => skipExistingCheck_left s) ?_
      requests settings ⟨s, []⟩
    intro s hs
    rw [bySkipFlag, hs]
    rfl
  · refine countP_history_le_one operator byReleaseKeys (fun s => s.existingReleaseName = none)
      (fun s hs => existingReleaseName_left (.inr hs))
      (fun s hs => existingReleaseName_left (.inl hs)) ?_ requests settings ⟨s, []⟩
    intro s hs
    simp [byReleaseKeys, hs]

/-- A flag, then two keys, then an operator who falls silent half way. -/
theorem resolveAll_takes_turns_flag_keys_operator :
    let settings : Settings :=
      { skipExistingCheck := some true
        existingReleaseName := some "dapr-old"
        existingReleaseNamespace := some "infra" }
    let requests : List Request := [⟨"dapr", none⟩, ⟨"dapr", none⟩, ⟨"dapr", none⟩]
    let script : Script := ⟨[.yesNo true, .failure .notInteractive], []⟩
    let ts := turns ⟨settings, []⟩ requests
      (resolveAll Operator.scripted.recording settings ⟨script, []⟩ requests)
    (ts.map fun t => (t.result.toOption, t.after.asked.length)) =
        [(some ⟨"dapr", none, false⟩, 0), (some ⟨"dapr-old", some "infra", true⟩, 0), (none, 2)] ∧
      ∀ t ∈ ts, t.Effect :=
  ⟨by decide, (resolveAll_takes_turns .scripted _ _ _).2.2.1⟩

end DaprHosting.Release
