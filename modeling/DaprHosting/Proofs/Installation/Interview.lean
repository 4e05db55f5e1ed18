import DaprHosting.Proofs.Installation.Submission
import DaprHosting.Proofs.Operator.Inquiries
import DaprHosting.Proofs.Release.Turns
import DaprHosting.Proofs.Text.Trimmed

/-!
# Who is asked before an installation

Building an installation goes in one of five ways (`Course`), each with the inquiries that are made
on the way, what it comes to, and what is logged. `build_course` says so once for every operator;
what is proved of the questions, of the resolved release and of the warnings is read off it.
`interview_of_build` puts that together.
-/

namespace DaprHosting

open Log (Event)

variable {σ τ : Type}

/-! ## 1. Warnings -/

namespace Release

/-- The release found goes by another name than the one requested. -/
def nameWarning (found requested : String) : Event where
  level := .warn
  message := "the Helm release name for Dapr is '" ++ found ++
    "', which differs from the requested name '" ++ requested ++ "'"

/-- It is in another namespace than the one requested. -/
def namespaceWarning (found requested : String) : Event where
  level := .warn
  message := "the Helm release namespace for Dapr is '" ++ found ++
    "', which differs from the requested namespace '" ++ requested ++ "'"

/-- **What is told of a release** in reply to a request. -/
def warnings (release : Release) (name : String) (inNamespace : Option String) : List Event :=
  (if release.name != name then [nameWarning release.name name] else []) ++
    (if namespaceDiverges inNamespace release.inNamespace then
      [namespaceWarning (release.inNamespace.getD "") (inNamespace.getD "")] else [])

/-- A release is told of and taken. -/
theorem warned_inquires (release : Release) (name : String) (inNamespace : Option String)
    (s : Interviewed σ) :
    (warnDiverging release name inNamespace >>= fun _ => pure release : Action _ Error _).Inquires
      s [] (.ok release) (warnings release name inNamespace) := by
  obtain ⟨hresult, hstate⟩ := warned_run name inNamespace release s
  refine ⟨by rw [hstate, List.append_nil], hresult, ?_⟩
  unfold warnDiverging warnings
  cases release.name != name <;> cases namespaceDiverges inNamespace release.inNamespace <;> rfl

def IsNameWarning (e : Event) : Prop := ∃ found requested, e = nameWarning found requested

def IsNamespaceWarning (e : Event) : Prop := ∃ found requested, e = namespaceWarning found requested

/-- Texts that open differently are not the same, whatever follows. -/
theorem append_ne_append {p q : String} (n : Nat) (hp : n ≤ p.toList.length)
    (hq : n ≤ q.toList.length) (h : p.toList.take n ≠ q.toList.take n) (x y : String) :
    p ++ x ≠ q ++ y := by
  intro heq
  have hl := congrArg (fun t => t.toList.take n) heq
  simp only [String.toList_append] at hl
  rw [List.take_append_of_le_length hp, List.take_append_of_le_length hq] at hl
  exact h hl

/-- The two warnings are never the same event. -/
theorem nameWarning_ne_namespaceWarning (found requested found' requested' : String) :
    nameWarning found requested ≠ namespaceWarning found' requested' := by
  intro h
  have hm := congrArg Event.message h
  simp only [nameWarning, namespaceWarning, String.append_assoc] at hm
  exact append_ne_append 22 (by decide) (by decide) (by decide) _ _ hm

theorem namespaceDiverges_iff (requested resolved : Option String) :
    namespaceDiverges requested resolved = true ↔
      ∃ ns, requested = some ns ∧ resolved ≠ some ns := by
  cases requested with
  | none => exact ⟨nofun, fun ⟨_, h, _⟩ => nomatch h⟩
  | some ns => simp [namespaceDiverges]

theorem mem_warnings {e : Event} {release : Release} {name : String}
    {inNamespace : Option String} :
    e ∈ warnings release name inNamespace ↔
      release.name ≠ name ∧ e = nameWarning release.name name ∨
        ∃ ns, inNamespace = some ns ∧ release.inNamespace ≠ some ns ∧
          e = namespaceWarning (release.inNamespace.getD "") ns := by
  rw [warnings, List.mem_append]
  refine or_congr ?_ ?_
  · rw [← bne_iff_ne]
    cases release.name != name <;> simp
  · cases inNamespace with
    | none => simp [namespaceDiverges]
    | some ns =>
      have hdiverges := namespaceDiverges_iff (some ns) release.inNamespace
      simp only [Option.some.injEq, exists_eq_left'] at hdiverges ⊢
      rw [← hdiverges, Option.getD_some]
      cases namespaceDiverges (some ns) release.inNamespace <;> simp

/-! ## 2. How a release is resolved -/

/-- What is logged when the skip flag decides. -/
def skipping : Event := ⟨.debug, "skipping existing dapr installation check", []⟩

/-- What is logged before anybody is asked. -/
def beforehand (settings : Settings) : List Event :=
  if bySkipFlag settings then [skipping] else []

/-- **How resolving a release can go**: the inquiries, what it comes to, and what is logged. -/
inductive Course (name : String) (inNamespace : Option String) (settings : Settings) :
    List Inquiry → Except Error Release → List Event → Prop where
  | skipped (hskip : bySkipFlag settings = true) :
      Course name inNamespace settings [] (.ok ⟨name, inNamespace, false⟩) [skipping]
  | named {n ns : String} (hkeys : byReleaseKeys settings = true)
      (hn : settings.existingReleaseName = some n)
      (hns : settings.existingReleaseNamespace = some ns) :
      Course name inNamespace settings [] (.ok ⟨n, some ns, true⟩)
        (warnings ⟨n, some ns, true⟩ name inNamespace)
  | unanswered {is : List Inquiry} {e : PromptError} (hskip : bySkipFlag settings = false)
      (hkeys : byReleaseKeys settings = false)
      (hinterview : Interview name inNamespace is (.error e)) :
      Course name inNamespace settings is (.error (.prompt e)) (logOf is)
  | answered {is : List Inquiry} {release : Release} (hskip : bySkipFlag settings = false)
      (hkeys : byReleaseKeys settings = false)
      (hinterview : Interview name inNamespace is (.ok release)) :
      Course name inNamespace settings is (.ok release)
        (logOf is ++ warnings release name inNamespace)

/-- **A release is resolved in one of these ways, whoever is asked.** -/
theorem resolve_course (operator : Operator σ) (name : String) (inNamespace : Option String)
    (settings : Settings) (s : Interviewed σ) :
    ∃ is result l, Course name inNamespace settings is result l ∧
      (resolve operator.interviewing name inNamespace settings).Inquires s is result l := by
  have hdecided := decide_decided settings
  unfold resolve
  generalize (decide settings).1 = d, (decide settings).2 = left at hdecided ⊢
  cases hdecided with
  | skipped hskip => exact ⟨_, _, _, .skipped hskip, .quiet rfl⟩
  | existing hkeys hn hns =>
    exact ⟨_, _, _, .named hkeys hn hns, warned_inquires _ name inNamespace s⟩
  | asked hskip hkeys =>
    obtain ⟨is, result, l, hinterview, rfl, hasked⟩ := ask_interview operator name inNamespace s
    have hasked := hasked.mapError Error.prompt
    cases result with
    | error e => exact ⟨_, _, _, .unanswered hskip hkeys hinterview, hasked.bind_error⟩
    | ok release =>
      exact ⟨_, _, _, .answered hskip hkeys hinterview,
        hasked.bind_quiet (warned_inquires release name inNamespace _)⟩

/-- What is left of a text, or a default, has no blanks around it. -/
theorem trimmed_nonBlankOr {default : String} (h : Text.Trimmed default) (s : String) :
    Text.Trimmed (nonBlankOr default s) := by
  unfold nonBlankOr
  cases hs : Text.nonBlank? s with
  | none => exact h
  | some t => exact Text.trimmed_of_nonBlank? hs

/-- **A release that was asked for has a name and a namespace**, without blanks around them. -/
theorem Interview.trimmed {name : String} {inNamespace : Option String} {is : List Inquiry}
    {release : Release} (h : Interview name inNamespace is (.ok release)) :
    Text.Trimmed release.name ∧ ∃ ns, release.inNamespace = some ns ∧ Text.Trimmed ns := by
  have hname : Text.Trimmed defaultName := Text.trimmed_of_trim_eq (by decide) (by decide)
  have hns : Text.Trimmed defaultNamespace := Text.trimmed_of_trim_eq (by decide) (by decide)
  generalize hresult : Except.ok release = result at h
  cases h with
  | unanswered | unnamed | unplaced => cases hresult
  | new =>
    obtain rfl := Except.ok.inj hresult
    dsimp only
    exact ⟨trimmed_nonBlankOr hname name, _, rfl, trimmed_nonBlankOr hns (inNamespace.getD "")⟩
  | described n ns =>
    obtain rfl := Except.ok.inj hresult
    dsimp only
    exact ⟨trimmed_nonBlankOr hname n, _, rfl, trimmed_nonBlankOr hns ns⟩

/-! ## 3. What every course keeps to -/

/-- The settings say which release it is: they skip the question, or name the release. -/
def Known (s : Settings) : Prop :=
  s.skipExistingCheck = some true ∨
    s.existingReleaseName.isSome = true ∧ s.existingReleaseNamespace.isSome = true

theorem known_iff {s : Settings} :
    Known s ↔ bySkipFlag s = true ∨ byReleaseKeys s = true := by
  rw [Known, bySkipFlag, byReleaseKeys, bySkipFlag, beq_iff_eq]
  by_cases h : s.skipExistingCheck = some true
  · simp [h]
  · simp [h]

/-- Nobody resolves a release that the settings do not say. -/
theorem resolve_error_of_silent {operator : Operator σ} (h : operator.Silent) {settings : Settings}
    (hunknown : ¬ Known settings) (name : String) (inNamespace : Option String) (s : σ) :
    (resolve operator name inNamespace settings s).result = .error (.prompt .notInteractive) := by
  rw [known_iff] at hunknown
  have hdecided := decide_decided settings
  unfold resolve
  generalize (decide settings).1 = d, (decide settings).2 = left at hdecided ⊢
  cases hdecided with
  | skipped hskip => exact absurd (.inl hskip) hunknown
  | existing hkeys => exact absurd (.inr hkeys) hunknown
  | asked =>
    have hask : (ask operator name inNamespace s).result = .error .notInteractive := by
      unfold ask
      rw [Action.bind_run_error (h.confirm _ _ _)]
    have hprompt : ((ask operator name inNamespace).mapError Error.prompt s).result =
        .error (.prompt .notInteractive) := by
      rw [Action.mapError_run, hask]
      rfl
    rw [ofDecision_asked, Action.bind_run_error hprompt]

namespace Course

variable {name : String} {inNamespace : Option String} {settings : Settings}
  {is : List Inquiry} {result result' : Except Error Release} {l l' : List Event}

theorem in_order (h : Course name inNamespace settings is result l) :
    is.map Inquiry.question <+: questions := by
  cases h with
  | skipped | named => exact List.nil_prefix
  | unanswered _ _ hinterview | answered _ _ hinterview => exact hinterview.in_order

/-- **Nobody is asked exactly when the settings say which release it is.** -/
theorem inquiries_eq_nil_iff (h : Course name inNamespace settings is result l) :
    is = [] ↔ Known settings := by
  rw [known_iff]
  cases h with
  | skipped hskip => exact iff_of_true rfl (.inl hskip)
  | named hkeys => exact iff_of_true rfl (.inr hkeys)
  | unanswered hskip hkeys hinterview | answered hskip hkeys hinterview =>
    exact iff_of_false hinterview.nonempty (by simp [hskip, hkeys])

theorem all_answered (h : Course name inNamespace settings is result l) :
    ∀ i ∈ is.dropLast, i.failure = none := by
  cases h with
  | skipped | named => exact fun _ hi => nomatch hi
  | unanswered _ _ hinterview | answered _ _ hinterview => exact hinterview.answered

/-- **Resolving fails exactly as the last inquiry does.** -/
theorem error_iff (h : Course name inNamespace settings is result l) (e : Error) :
    result = .error e ↔
      ∃ cause, is.getLast?.bind Inquiry.failure = some cause ∧ e = .prompt cause := by
  cases h with
  | skipped | named => exact ⟨nofun, fun ⟨_, h, _⟩ => nomatch h⟩
  | unanswered _ _ hinterview =>
    rw [hinterview.last]
    simp [failureOf, eq_comm]
  | answered _ _ hinterview =>
    rw [hinterview.last]
    simp [failureOf]

theorem trimmed {release : Release} (h : Course name inNamespace settings is (.ok release) l)
    (hasked : is ≠ []) :
    Text.Trimmed release.name ∧ ∃ ns, release.inNamespace = some ns ∧ Text.Trimmed ns := by
  cases h with
  | skipped | named => exact absurd rfl hasked
  | answered _ _ hinterview => exact hinterview.trimmed

/-- **What is logged**: that the question is skipped, what the operator logs, and warnings. -/
theorem log_eq {release : Release} (h : Course name inNamespace settings is (.ok release) l) :
    l = beforehand settings ++ logOf is ++ warnings release name inNamespace := by
  unfold beforehand
  cases h with
  | skipped hskip =>
    have hwarnings : warnings ⟨name, inNamespace, false⟩ name inNamespace = [] := by
      cases inNamespace <;> simp [warnings, namespaceDiverges]
    rw [if_pos hskip, hwarnings]
    rfl
  | named hkeys =>
    rw [if_neg (by simp [bySkipFlag_of_byReleaseKeys hkeys])]
    rfl
  | answered hskip =>
    rw [if_neg (by simp [hskip])]
    rfl

/-- **Where nobody is asked, all is settled by the request.** -/
theorem determined (h : Course name inNamespace settings [] result l)
    (h' : Course name inNamespace settings [] result' l') : result = result' ∧ l = l' := by
  cases h with
  | skipped hskip =>
    cases h' with
    | skipped => exact ⟨rfl, rfl⟩
    | named hkeys =>
      rw [byReleaseKeys_of_bySkipFlag hskip] at hkeys
      cases hkeys
    | unanswered _ _ hinterview | answered _ _ hinterview => exact absurd rfl hinterview.nonempty
  | named hkeys hn hns =>
    cases h' with
    | skipped hskip =>
      rw [byReleaseKeys_of_bySkipFlag hskip] at hkeys
      cases hkeys
    | named _ hn' hns' =>
      cases hn.symm.trans hn'
      cases hns.symm.trans hns'
      exact ⟨rfl, rfl⟩
    | unanswered _ _ hinterview | answered _ _ hinterview => exact absurd rfl hinterview.nonempty
  | unanswered _ _ hinterview | answered _ _ hinterview => exact absurd rfl hinterview.nonempty

end Course

end Release

/-! ## 4. What an installation asks -/

namespace Installation

open Release (Known IsNameWarning IsNamespaceWarning nameWarning namespaceWarning warnings logOf)

/-- The namespace that the extension is installed for. -/
def releaseNamespace (built : Installation) : Option String :=
  built.extension.scope.cluster.bind ClusterScope.releaseNamespace

/-- What else is logged once the release is known. -/
def told (request : InstallRequest) (release : Release) : List Event :=
  (if release.alreadyInstalled && request.settings.haEnabled == some true then
    [⟨.warn, "Dapr is already installed, so HA mode will be disabled (" ++ Settings.haEnabledKey ++
      " = false) for this extension", []⟩] else []) ++
    [⟨.info, "prepared Dapr extension",
      [("release", .text release.name), ("namespace", .text (release.inNamespace.getD "")),
        ("already_installed", .flag release.alreadyInstalled)]⟩]

/-- **How building an installation can go.** -/
inductive Course (request : InstallRequest) :
    List Inquiry → Except Release.Error Installation → List Event → Prop where
  | refused (hscope : request.scope = .namespaced) :
      Course request [] (.error (.unsupportedScope .namespaced)) []
  | failed {is : List Inquiry} {e : Release.Error} {l : List Event}
      (hscope : request.scope = .cluster)
      (hcourse : Release.Course request.releaseName request.releaseNamespace request.settings is
        (.error e) l) :
      Course request is (.error e) l
  | built {is : List Inquiry} {release : Release} {l : List Event}
      (hscope : request.scope = .cluster)
      (hcourse : Release.Course request.releaseName request.releaseNamespace request.settings is
        (.ok release) l) :
      Course request is (.ok (ofRelease request release)) (l ++ told request release)

/-- **An installation is built in one of these ways, whoever is asked.** -/
theorem build_course (operator : Operator σ) (request : InstallRequest) (s : Interviewed σ) :
    ∃ is result l, Course request is result l ∧
      (build operator.interviewing request).Inquires s is result l := by
  unfold build
  cases hscope : request.scope with
  | namespaced =>
    rw [if_pos rfl]
    exact ⟨_, _, _, .refused hscope, .quiet rfl⟩
  | cluster =>
    rw [if_neg nofun]
    obtain ⟨is, result, l, hcourse, hinquires⟩ := Release.resolve_course operator
      request.releaseName request.releaseNamespace request.settings s
    cases result with
    | error e => exact ⟨_, _, _, .failed hscope hcourse, hinquires.bind_error⟩
    | ok release =>
      refine ⟨_, _, _, .built hscope hcourse, hinquires.bind_quiet ?_⟩
      unfold told
      dsimp only
      cases release.alreadyInstalled && request.settings.haEnabled == some true with
      | true => exact .quiet rfl
      | false => exact .quiet rfl

/-- What is logged beforehand, and what is told in the end, are no warnings of these kinds. -/
theorem notMem_beforehand {e : Event} (h : IsNameWarning e ∨ IsNamespaceWarning e)
    (settings : Settings) : e ∉ Release.beforehand settings := by
  intro he
  unfold Release.beforehand at he
  split at he
  · cases List.mem_singleton.mp he
    rcases h with ⟨_, _, h⟩ | ⟨_, _, h⟩ <;> cases congrArg Event.level h
  · cases he

theorem notMem_told {e : Event} (h : IsNameWarning e ∨ IsNamespaceWarning e)
    (request : InstallRequest) (release : Release) : e ∉ told request release := by
  intro he
  rcases List.mem_append.mp he with he | he
  · split at he
    · cases List.mem_singleton.mp he
      rcases h with ⟨_, _, h⟩ | ⟨_, _, h⟩
      all_goals
        have hm := congrArg Event.message h
        simp only [nameWarning, namespaceWarning, String.append_assoc] at hm
        exact Release.append_ne_append 1 (by decide) (by decide) (by decide) _ _ hm
    · cases he
  · cases List.mem_singleton.mp he
    rcases h with ⟨_, _, h⟩ | ⟨_, _, h⟩ <;> cases congrArg Event.level h

/-- Of the events that are not the operator's, only those about the release are such warnings. -/
theorem mem_own_iff {e : Event} (h : IsNameWarning e ∨ IsNamespaceWarning e)
    (request : InstallRequest) (release : Release) (ws : List Event) :
    e ∈ Release.beforehand request.settings ++ (ws ++ told request release) ↔ e ∈ ws := by
  have hbefore := notMem_beforehand h request.settings
  have htold := notMem_told h request release
  simp only [List.mem_append, hbefore, htold, false_or, or_false]

/-- **What is asked, resolved and told** when an installation is built. -/
structure Interviewing (request : InstallRequest)
    (run : Outcome (Interviewed σ) Release.Error Installation) : Prop where
  /-- The questions are asked in their order, and none is left out. -/
  in_order : run.state.inquiries.map Inquiry.question <+: Release.questions
  /-- Nobody is asked exactly when the scope is refused, or the settings say which release it is. -/
  unasked : run.state.inquiries = [] ↔ request.scope = .namespaced ∨ Known request.settings
  /-- After a failing question nothing more is asked. -/
  all_answered : ∀ i ∈ run.state.inquiries.dropLast, i.failure = none
  /-- It fails for the scope, or with the error of the last question, and not otherwise. -/
  failed : ∀ e, run.result = .error e ↔
    request.scope = .namespaced ∧ e = .unsupportedScope .namespaced ∨
      ∃ cause, run.state.inquiries.getLast?.bind Inquiry.failure = some cause ∧ e = .prompt cause
  /-- After a question the name and the namespace are there, without blanks around them. -/
  trimmed : run.state.inquiries ≠ [] → ∀ built, run.result = .ok built →
    Text.Trimmed built.releaseName ∧ ∃ ns, built.releaseNamespace = some ns ∧ Text.Trimmed ns
  /-- Whatever is found not to be as requested is warned of, once what the operator logs is left
      out, and nothing else is. -/
  warned : ∀ built, run.result = .ok built → ∃ before after,
    run.log = before ++ logOf run.state.inquiries ++ after ∧
    (∀ e, IsNameWarning e → (e ∈ before ++ after ↔ built.releaseName ≠ request.releaseName ∧
      e = nameWarning built.releaseName request.releaseName)) ∧
    ∀ e, IsNamespaceWarning e → (e ∈ before ++ after ↔
      ∃ ns, request.releaseNamespace = some ns ∧ built.releaseNamespace ≠ some ns ∧
        e = namespaceWarning (built.releaseNamespace.getD "") ns)

theorem interviewing_of_course {request : InstallRequest} {is : List Inquiry}
    {result : Except Release.Error Installation} {l : List Event} (h : Course request is result l)
    (s : σ) : Interviewing request ⟨result, ⟨s, is⟩, l⟩ := by
  cases h with
  | refused hscope =>
    refine ⟨List.nil_prefix, iff_of_true rfl (.inl hscope), ?_, fun e => ⟨?_, ?_⟩, ?_, ?_⟩
    · intro i hi
      cases hi
    · rintro ⟨⟩
      exact .inl ⟨hscope, rfl⟩
    · rintro (⟨-, rfl⟩ | ⟨_, h, -⟩)
      · rfl
      · cases h
    · intro hasked
      exact absurd rfl hasked
    · intro built hbuilt
      cases hbuilt
  | failed hscope hcourse =>
    refine ⟨hcourse.in_order, ?_, hcourse.all_answered, fun e => ?_, ?_, ?_⟩
    · rw [hcourse.inquiries_eq_nil_iff]
      simp [hscope]
    · have herror := hcourse.error_iff e
      simp only [Except.error.injEq] at herror
      simp [hscope, herror]
    · intro _ built hbuilt
      cases hbuilt
    · intro built hbuilt
      cases hbuilt
  | @built is release l hscope hcourse =>
    refine ⟨hcourse.in_order, ?_, hcourse.all_answered, fun e => ?_, ?_, ?_⟩
    · rw [hcourse.inquiries_eq_nil_iff]
      simp [hscope]
    · have herror := hcourse.error_iff e
      simp only [reduceCtorEq, false_iff] at herror
      simp [hscope, herror]
    · rintro hasked _ ⟨⟩
      exact hcourse.trimmed hasked
    · rintro _ ⟨⟩
      refine ⟨Release.beforehand request.settings,
        warnings release request.releaseName request.releaseNamespace ++ told request release,
        ?_, fun e he => ?_, fun e he => ?_⟩
      · dsimp only
        rw [hcourse.log_eq]
        simp only [List.append_assoc]
      · rw [mem_own_iff (.inl he) request release, Release.mem_warnings]
        obtain ⟨found, requested, rfl⟩ := he
        simp only [Release.nameWarning_ne_namespaceWarning, and_false, exists_false, or_false]
        rfl
      · rw [mem_own_iff (.inr he) request release, Release.mem_warnings]
        obtain ⟨found, requested, rfl⟩ := he
        simp only [(Release.nameWarning_ne_namespaceWarning _ _ _ _).symm, and_false, false_or]
        rfl

/-- **Where nobody is asked, all is settled by the request.** -/
theorem Course.determined {request : InstallRequest}
    {result result' : Except Release.Error Installation} {l l' : List Event}
    (h : Course request [] result l) (h' : Course request [] result' l') :
    result = result' ∧ l = l' := by
  cases h with
  | refused hscope =>
    cases h' with
    | refused => exact ⟨rfl, rfl⟩
    | failed hcluster | built hcluster => rw [hscope] at hcluster; cases hcluster
  | failed hscope hcourse =>
    cases h' with
    | refused hns => rw [hscope] at hns; cases hns
    | failed _ hcourse' =>
      obtain ⟨hresult, rfl⟩ := hcourse.determined hcourse'
      cases hresult
      exact ⟨rfl, rfl⟩
    | built _ hcourse' => cases (hcourse.determined hcourse').1
  | built hscope hcourse =>
    cases h' with
    | refused hns => rw [hscope] at hns; cases hns
    | failed _ hcourse' => cases (hcourse.determined hcourse').1
    | built _ hcourse' =>
      obtain ⟨hresult, rfl⟩ := hcourse.determined hcourse'
      cases hresult
      exact ⟨rfl, rfl⟩

/-! ## 5. Whoever is asked -/

/-- The run of an operator who writes its inquiries down is a course of the request. -/
theorem course_of_build (operator : Operator σ) (request : InstallRequest) (s : σ) :
    let run := build operator.interviewing request ⟨s, []⟩
    Course request run.state.inquiries run.result run.log := by
  obtain ⟨is, result, l, hcourse, hinquires⟩ := build_course operator request ⟨s, []⟩
  have his := hinquires.inquiries
  rw [List.nil_append] at his
  dsimp only
  rw [his, hinquires.result, hinquires.log]
  exact hcourse

theorem interviewing_of_build (operator : Operator σ) (request : InstallRequest) (s : σ) :
    Interviewing request (build operator.interviewing request ⟨s, []⟩) :=
  interviewing_of_course (course_of_build operator request s) _

/-- Writing inquiries down changes nothing. -/
theorem build_eq_interviewing (operator : Operator σ) (request : InstallRequest) (s : σ) :
    let run := build operator.interviewing request ⟨s, []⟩
    build operator request s = ⟨run.result, run.state.state, run.log⟩ := by
  obtain ⟨hresult, hlog, hstate⟩ :=
    build_agrees operator.interviewing_agrees request ⟨s, []⟩ s rfl
  dsimp only
  rw [hresult, hlog, hstate]

/-- **Where nobody is asked, it does not matter who it is.** -/
theorem build_eq_of_unasked {operator : Operator σ} {request : InstallRequest} {s : σ}
    (h : (build operator.interviewing request ⟨s, []⟩).state.inquiries = [])
    (operator' : Operator τ) (t : τ) :
    (build operator' request t).result = (build operator request s).result ∧
      (build operator' request t).log = (build operator request s).log := by
  have hsettled := (interviewing_of_build operator request s).unasked.mp h
  have h' := (interviewing_of_build operator' request t).unasked.mpr hsettled
  have hcourse := course_of_build operator request s
  have hcourse' := course_of_build operator' request t
  dsimp only at hcourse hcourse'
  rw [h] at hcourse
  rw [h'] at hcourse'
  rw [build_eq_interviewing operator' request t, build_eq_interviewing operator request s]
  exact hcourse'.determined hcourse

/-- **Where nobody answers**, only a known release comes to an installation. -/
theorem build_ok_iff_of_silent {operator : Operator σ} (h : operator.Silent)
    (request : InstallRequest) (s : σ) :
    (∃ built, (build operator request s).result = .ok built) ↔
      request.scope = .cluster ∧ Known request.settings := by
  have hinterview := interviewing_of_build operator request s
  have hbuild := build_eq_interviewing operator request s
  constructor
  · rintro ⟨built, hbuilt⟩
    have hscope := scope_of_build hbuilt
    refine ⟨hscope, ?_⟩
    by_contra hunknown
    rw [build_result_of_cluster operator hscope,
      Release.resolve_error_of_silent h hunknown] at hbuilt
    cases hbuilt
  · rintro ⟨hscope, hknown⟩
    have hunasked := hinterview.unasked.mpr (.inr hknown)
    cases hresult : (build operator.interviewing request ⟨s, []⟩).result with
    | ok built => exact ⟨built, by rw [hbuild]; exact hresult⟩
    | error e =>
      -- without a question only the scope could be refused
      rcases (hinterview.failed e).mp hresult with ⟨hns, -⟩ | ⟨cause, hlast, -⟩
      · rw [hscope] at hns
        cases hns
      · rw [hunasked] at hlast
        cases hlast

/-- **Who is asked before an installation**, for every request and every operator: the questions,
    the resolved release and the warnings are as `Interviewing` says. A request that asks nothing
    comes to the same whoever the operator is, and where nobody answers, only such a request comes
    to an installation. -/
theorem interview_of_build (operator : Operator σ) (request : InstallRequest) (s : σ) :
    let run := build operator.interviewing request ⟨s, []⟩
    build operator request s = ⟨run.result, run.state.state, run.log⟩ ∧
      Interviewing request run ∧
      (run.state.inquiries = [] → ∀ {τ : Type} (operator' : Operator τ) (t : τ),
        (build operator' request t).result = (build operator request s).result ∧
          (build operator' request t).log = (build operator request s).log) ∧
      (operator.Silent → ((∃ built, (build operator request s).result = .ok built) ↔
        request.scope = .cluster ∧ Known request.settings)) :=
  ⟨build_eq_interviewing operator request s, interviewing_of_build operator request s,
    fun h _ => build_eq_of_unasked h, fun h => build_ok_iff_of_silent h request s⟩

/-- A release that an operator describes, and nobody to describe one: the first comes to an
    installation under the trimmed name, with a warning, and the second to none. -/
theorem interview_of_build_described_silent :
    let request := plainRequest {}
    let run := build Operator.scripted.interviewing request
      ⟨⟨[.yesNo true, .text " dapr-old\n", .text ""], []⟩, []⟩
    (∃ built, run.result = .ok built ∧ built.releaseName = "dapr-old" ∧
      Text.Trimmed built.releaseName ∧ nameWarning "dapr-old" "dapr" ∈ run.log) ∧
    ¬ ∃ built, (build Operator.nobody request ()).result = .ok built := by
  intro request run
  obtain ⟨-, hinterview, -, -⟩ := interview_of_build Operator.scripted request
    ⟨[.yesNo true, .text " dapr-old\n", .text ""], []⟩
  obtain ⟨-, -, -, hsilent⟩ := interview_of_build Operator.nobody request ()
  have hasked : run.state.inquiries ≠ [] := by
    rw [Ne, hinterview.unasked, Known]
    decide
  obtain ⟨built, hbuilt, hname⟩ :
      ∃ built, run.result = .ok built ∧ built.releaseName = "dapr-old" := ⟨_, rfl, by decide⟩
  constructor
  · refine ⟨built, hbuilt, hname, (hinterview.trimmed hasked built hbuilt).1, ?_⟩
    obtain ⟨before, after, hlog, hwarned, -⟩ := hinterview.warned built hbuilt
    have hown := (hwarned (nameWarning "dapr-old" "dapr") ⟨_, _, rfl⟩).mpr
      ⟨by rw [hname]; decide, by rw [hname]; rfl⟩
    rw [hlog]
    rcases List.mem_append.mp hown with h | h
    · exact List.mem_append_left _ (List.mem_append_left _ h)
    · exact List.mem_append_right _ h
  · rw [hsilent Operator.silent_nobody, Known]
    decide

end Installation

end DaprHosting
