import DaprHosting.Proofs.ResourceManager.Call
import DaprHosting.Proofs.Text.Trimmed

/-!
# What an answer means

A response has a status and a body, and the body may be unreadable. `LookupSays` and `CreationSays`
list what each of them means for a lookup and for a creation, kind by kind: only a 404 says that a
resource is absent, and no failure is taken for that. `Worded` is what a refusal is told with: what
its error document says, or else the status line.
-/

namespace DaprHosting.ResourceManager

open Http

/-! ## 1. The words of a refusal -/

/-- The text is an error document with this code and this message, either of which may be
    missing. -/
def IsErrorDocument (body : String) (code message : Option String) : Prop :=
  ∃ document detail c m, Json.read? body = some document ∧
    document.fields? ["error"] false = some [some detail] ∧
    detail.fields? ["code", "message"] false = some [c, m] ∧
    Json.optional Json.string? c = some code ∧ Json.optional Json.string? m = some message

/-- **What code and message say**: both, or the one that is there. -/
inductive Says : Option String → Option String → String → Prop where
  | both (code message : String) : Says (some code) (some message) (code ++ ": " ++ message)
  | message (message : String) : Says none (some message) message
  | code (code : String) : Says (some code) none code

/-- **What a refusal is told with**: what its error document says, unless there is none or it says
    nothing; then the status line. -/
inductive Worded (status : Nat) (body : String) : String → Prop where
  | said {code message : Option String} {text : String}
      (hdocument : IsErrorDocument body code message) (hwords : Says code message text)
      (hne : text ≠ "") : Worded status body text
  | unsaid (h : ∀ code message text, IsErrorDocument body code message → Says code message text →
      text = "") : Worded status body (statusLine status)

theorem errorDetail?_eq_some_iff {j : Json} {code message : Option String} :
    errorDetail? j = some (code, message) ↔
      ∃ c m, j.fields? ["code", "message"] false = some [c, m] ∧
        Json.optional Json.string? c = some code ∧ Json.optional Json.string? m = some message := by
  unfold errorDetail?
  constructor
  · intro h
    rw [Option.bind_eq_bind, Option.bind_eq_some_iff] at h
    obtain ⟨fields, hfields, h⟩ := h
    split at h
    · rename_i c m
      simp only [Option.bind_eq_bind, Option.bind_eq_some_iff, Option.pure_def, Option.some.injEq,
        Prod.mk.injEq] at h
      obtain ⟨code', hc, message', hm, rfl, rfl⟩ := h
      exact ⟨c, m, hfields, hc, hm⟩
    · cases h
  · rintro ⟨c, m, hfields, hc, hm⟩
    rw [hfields]
    simp [hc, hm]

/-- A field has a value when it is written, and no `null`. -/
theorem optional_eq_some_some_iff {α : Type} {read : Json → Option α} (hnull : read .null = none)
    {field : Option Json} {a : α} :
    Json.optional read field = some (some a) ↔ ∃ j, field = some j ∧ read j = some a := by
  cases field with
  | none => simp [Json.optional, Json.fieldOr]
  | some j =>
    cases j with
    | null => simp [Json.optional, Json.fieldOr, Json.nullable, hnull]
    | _ => simp [Json.optional, Json.fieldOr, Json.nullable]

/-- **The text of an error document** is what it says, if it says anything. -/
theorem errorText?_eq_some_iff {body text : String} :
    errorText? body = some text ↔ text ≠ "" ∧
      ∃ code message, IsErrorDocument body code message ∧ Says code message text := by
  unfold errorText?
  constructor
  · intro h
    simp only [Option.bind_eq_bind, Option.bind_eq_some_iff] at h
    obtain ⟨document, hread, fields, hfields, h⟩ := h
    split at h
    · rename_i field
      simp only [Option.bind_eq_some_iff] at h
      obtain ⟨error, hfield, ⟨code, message⟩, rfl, h⟩ := h
      obtain ⟨detail, rfl, hdetail⟩ := (optional_eq_some_some_iff rfl).mp hfield
      obtain ⟨c, m, hdetail⟩ := errorDetail?_eq_some_iff.mp hdetail
      have hdocument : IsErrorDocument body code message :=
        ⟨document, detail, c, m, hread, hfields, hdetail⟩
      rw [Option.ite_none_left_eq_some] at h
      obtain ⟨hne, htext⟩ := h
      cases htext
      refine ⟨hne, code, message, hdocument, ?_⟩
      rcases code with _ | code <;> rcases message with _ | message
      · exact absurd rfl hne
      · exact .message message
      · exact .code code
      · exact .both code message
    · cases h
  · rintro ⟨hne, code, message, ⟨document, detail, c, m, hread, hfields, hdetail⟩, hwords⟩
    have herror : Json.optional errorDetail? (some detail) = some (some (code, message)) :=
      (optional_eq_some_some_iff rfl).mpr
        ⟨detail, rfl, errorDetail?_eq_some_iff.mpr ⟨c, m, hdetail⟩⟩
    rw [hread]
    dsimp only [Option.bind_eq_bind, Option.bind_some]
    rw [hfields]
    dsimp only [Option.bind_some]
    rw [herror]
    cases hwords <;> exact if_neg hne

/-- **Every refusal is told with some words**, and with no others. -/
theorem worded_iff {status : Nat} {body text : String} :
    Worded status body text ↔ text = (errorText? body).getD (statusLine status) := by
  cases h : errorText? body with
  | none =>
    have hunsaid : ∀ code message text, IsErrorDocument body code message →
        Says code message text → text = "" := by
      intro code message text hdocument hwords
      by_contra hne
      cases h.symm.trans (errorText?_eq_some_iff.mpr ⟨hne, code, message, hdocument, hwords⟩)
    constructor
    · rintro (⟨hdocument, hwords, hne⟩ | -)
      · exact absurd (hunsaid _ _ _ hdocument hwords) hne
      · rfl
    · rintro rfl
      exact .unsaid hunsaid
  | some text' =>
    obtain ⟨hne', code', message', hdocument', hwords'⟩ := errorText?_eq_some_iff.mp h
    constructor
    · rintro (⟨hdocument, hwords, hne⟩ | hunsaid)
      · exact Option.some.inj
          ((errorText?_eq_some_iff.mpr ⟨hne, _, _, hdocument, hwords⟩).symm.trans h)
      · exact absurd (hunsaid _ _ _ hdocument' hwords') hne'
    · rintro rfl
      exact .said hdocument' hwords' hne'

/-- **A refusal is never told with nothing.** -/
theorem Worded.ne_empty {status : Nat} {body text : String} (h : Worded status body text) :
    text ≠ "" := by
  cases h with
  | said _ _ hne => exact hne
  | unsaid =>
    intro hempty
    have hl := congrArg String.toList hempty
    simp [statusLine] at hl

/-! ## 2. Bodies -/

/-- The request was carried out. -/
def Succeeded (r : Response) : Prop := 200 ≤ r.status ∧ r.status < 300

theorem isSuccess_iff {r : Response} : isSuccess r.status = true ↔ Succeeded r := by
  simp [isSuccess, Succeeded]

/-- There is nothing but white space. -/
def Blank (body : String) : Prop := ∀ c ∈ body.toList, Text.isBlank c = true

/-- The text is a document that describes the resource. -/
def Denotes (body : String) (resource : Resource) : Prop :=
  ∃ document, Json.read? body = some document ∧ Resource.ofJson? document = some resource

theorem denotes_iff {body : String} {resource : Resource} :
    (Json.read? body).bind Resource.ofJson? = some resource ↔ Denotes body resource :=
  Option.bind_eq_some_iff

/-- No value starts with a blank character. -/
theorem value?_of_blank {cs : List Char} (h : ∀ c ∈ cs, Text.isBlank c = true) (fuel : Nat) :
    Json.value? fuel cs = none := by
  cases fuel with
  | zero => rfl
  | succ fuel =>
    unfold Json.value?
    cases hskip : Json.skip cs with
    | nil => rfl
    | cons c rest =>
      have hsub : c :: rest ⊆ cs := by
        rw [← hskip]
        exact (List.dropWhile_sublist Json.isSpace).subset
      have hc : Text.isBlank c = true := h c (hsub (List.mem_cons_self ..))
      have hne : ∀ d, Text.isBlank d = false → c ≠ d := by
        rintro d hd rfl
        rw [hc] at hd
        cases hd
      have hdigits : Json.digits? (c :: rest) = none := by
        rw [Json.digits?, List.takeWhile_cons_of_neg (by simp [Text.isDigit_of_isBlank hc])]
      have hnumeral : Json.numeral? (c :: rest) = none := by
        have hwhole : Json.whole? (c :: rest) = none := by
          rw [Json.whole?, hdigits]
          rfl
        unfold Json.numeral?
        split
        rename_i hminus
        split at hminus
        · rename_i r heq
          exact absurd (List.cons.inj heq).1 (hne '-' (by decide))
        · cases hminus
          rw [hwhole]
          rfl
      dsimp only
      rw [if_neg (hne '"' (by decide)), if_neg (hne '[' (by decide)),
        if_neg (hne '\x7b' (by decide)), if_neg (hne 't' (by decide)), if_neg (hne 'f' (by decide)),
        if_neg (hne 'n' (by decide)), hnumeral]
      rfl

/-- **A blank body is no document.** -/
theorem read?_of_blank {body : String} (h : Blank body) : Json.read? body = none := by
  rw [Json.read?, Json.ofChars?, value?_of_blank h]

/-! ## 3. Kinds of answers -/

/-- **How a response can be read**: its body is unreadable, its status is no success, or the body is
    blank, a resource, or neither. -/
inductive Reading (r : Response) : Except ClientError (Option Resource) → Prop where
  | unreadable (hbody : r.body = none) (cause : String) : Reading r (.error (.network cause))
  | refused {body : String} (hbody : r.body = some body) (hstatus : ¬ Succeeded r) :
      Reading r (.error (refusal r.status body))
  | blank {body : String} (hbody : r.body = some body) (hstatus : Succeeded r)
      (hblank : Blank body) : Reading r (.ok none)
  | resource {body : String} {resource : Resource} (hbody : r.body = some body)
      (hstatus : Succeeded r) (hdenotes : Denotes body resource) : Reading r (.ok (some resource))
  | undecoded {body : String} (hbody : r.body = some body) (hstatus : Succeeded r)
      (hblank : ¬ Blank body) (hdenotes : ∀ resource, ¬ Denotes body resource) (cause : String) :
      Reading r (.error (.decode cause))

/-- **Every response is read in one of these ways.** -/
theorem decode_reading (r : Response) : Reading r (decode r) := by
  unfold decode
  cases hbody : r.body with
  | none => exact .unreadable hbody _
  | some body =>
    dsimp only
    by_cases hstatus : isSuccess r.status = true
    · rw [if_pos hstatus]
      rw [isSuccess_iff] at hstatus
      by_cases hblank : Text.nonBlank? body = none
      · rw [if_pos hblank]
        exact .blank hbody hstatus (Text.nonBlank?_eq_none_iff.mp hblank)
      · rw [if_neg hblank]
        cases hdenotes : (Json.read? body).bind Resource.ofJson? with
        | some resource => exact .resource hbody hstatus (denotes_iff.mp hdenotes)
        | none =>
          refine .undecoded hbody hstatus (fun h => hblank (Text.nonBlank?_eq_none_iff.mpr h))
            (fun resource h => ?_) _
          rw [denotes_iff.mpr h] at hdenotes
          cases hdenotes
    · rw [if_neg hstatus]
      exact .refused hbody fun h => hstatus (isSuccess_iff.mpr h)

/-- **Which error a response is read as**, where `spared` says of which it is not asked. -/
structure Faults {α : Type} (r : Response) (spared : Prop) (Undecoded : String → Prop)
    (result : Except ClientError α) : Prop where
  /-- The body is unreadable. -/
  network : (∃ cause, result = .error (.network cause)) ↔ ¬ spared ∧ r.body = none
  /-- The status is 401 or 403; the words are those of the refusal. -/
  unauthorized : ∀ message, result = .error (.unauthorized message) ↔
    ∃ body, r.body = some body ∧ (r.status = 401 ∨ r.status = 403) ∧ Worded r.status body message
  /-- The status is 429. -/
  rateLimit : result = .error .rateLimit ↔ r.body ≠ none ∧ r.status = 429
  /-- The status is any other that is no success, and it is passed on, with the words. -/
  api : ∀ status message, result = .error (.api status message) ↔
    ¬ spared ∧ status = r.status ∧ ¬ Succeeded r ∧ r.status ≠ 401 ∧ r.status ≠ 403 ∧
      r.status ≠ 429 ∧ ∃ body, r.body = some body ∧ Worded r.status body message
  /-- The status is a success and the body cannot be used. -/
  decode : (∃ cause, result = .error (.decode cause)) ↔
    Succeeded r ∧ ∃ body, r.body = some body ∧ Undecoded body
  /-- No answer is a matter of the configuration. -/
  invalidConfig : ∀ cause, result ≠ .error (.invalidConfig cause)

/-- **What a response says in reply to a creation.** -/
structure CreationSays (r : Response) (result : Except ClientError (Option Resource)) : Prop where
  /-- Nothing is returned for a success with a blank body, -/
  blank : result = .ok none ↔ Succeeded r ∧ ∃ body, r.body = some body ∧ Blank body
  /-- and a resource for a success that describes it. -/
  made : ∀ resource, result = .ok (some resource) ↔
    Succeeded r ∧ ∃ body, r.body = some body ∧ Denotes body resource
  /-- Everything else is an error, a 404 like others. -/
  faults : Faults r False (fun body => ¬ Blank body ∧ ∀ resource, ¬ Denotes body resource) result

/-- **What a response says in reply to a lookup.** -/
structure LookupSays (r : Response) (result : Except ClientError Lookup) : Prop where
  /-- The resource is absent for a 404, whatever the body, and for nothing else. -/
  absent : result = .ok .absent ↔ r.status = 404
  /-- It is found by a success that describes it. -/
  found : ∀ resource, result = .ok (.found resource) ↔
    Succeeded r ∧ ∃ body, r.body = some body ∧ Denotes body resource
  /-- Everything else is an error, a blank body too. -/
  faults : Faults r (r.status = 404) (fun body => ∀ resource, ¬ Denotes body resource) result

/-- A blank body describes nothing. -/
theorem Blank.not_denotes {body : String} (h : Blank body) (resource : Resource) :
    ¬ Denotes body resource := by
  rintro ⟨document, hread, -⟩
  rw [read?_of_blank h] at hread
  cases hread

theorem Denotes.inj {body : String} {resource resource' : Resource} (h : Denotes body resource)
    (h' : Denotes body resource') : resource = resource' := by
  rw [← denotes_iff] at h h'
  exact Option.some.inj (h.symm.trans h')

/-- **The error of a refusal**: by its status, with its words. -/
theorem refusal_faults {α : Type} {r : Response} {body : String} (hbody : r.body = some body)
    (hstatus : ¬ Succeeded r) {spared : Prop} (hspared : ¬ spared) (Undecoded : String → Prop) :
    Faults (α := α) r spared Undecoded (.error (refusal r.status body)) := by
  unfold refusal
  split
  · rename_i h
    rcases h with h | h
    all_goals constructor <;> simp [hbody, hstatus, h, worded_iff, eq_comm]
  rename_i hrights
  obtain ⟨h401, h403⟩ := not_or.mp hrights
  split
  · rename_i h429
    constructor <;> simp [hbody, hstatus, h429, hspared]
  · rename_i h429
    constructor <;> simp [hbody, hstatus, h401, h403, h429, hspared, worded_iff, eq_comm]

/-- A success whose body is used is no error. -/
theorem faults_of_ok {α : Type} {r : Response} {body : String} (hbody : r.body = some body)
    (hstatus : Succeeded r) (a : α) (spared : Prop) {Undecoded : String → Prop}
    (hdecoded : ¬ Undecoded body) : Faults r spared Undecoded (.ok a) := by
  obtain ⟨hlow, hhigh⟩ := hstatus
  constructor <;> simp [hbody, Succeeded, hdecoded]
  all_goals omega

/-- One whose body cannot be used is that error. -/
theorem faults_of_undecoded {α : Type} {r : Response} {body : String} (hbody : r.body = some body)
    (hstatus : Succeeded r) (cause : String) (spared : Prop) {Undecoded : String → Prop}
    (hundecoded : Undecoded body) :
    Faults (α := α) r spared Undecoded (.error (.decode cause)) := by
  obtain ⟨hlow, hhigh⟩ := hstatus
  constructor <;> simp [hbody, Succeeded, hundecoded]
  all_goals omega

theorem creationSays_of_reading {r : Response} {result : Except ClientError (Option Resource)}
    (h : Reading r result) : CreationSays r result := by
  cases h with
  | unreadable hbody =>
    refine ⟨by simp [hbody], by simp [hbody], ?_⟩
    constructor <;> simp [hbody]
  | refused hbody hstatus =>
    exact ⟨by simp [hstatus], by simp [hstatus], refusal_faults hbody hstatus not_false _⟩
  | blank hbody hstatus hblank =>
    refine ⟨by simp [hbody, hstatus, hblank], ?_, ?_⟩
    · simp [hbody, hblank.not_denotes]
    · exact faults_of_ok hbody hstatus _ _ fun h => h.1 hblank
  | @resource body resource hbody hstatus hdenotes =>
    refine ⟨?_, fun resource' => ?_, ?_⟩
    · have hfilled : ¬ Blank body := fun hblank => hblank.not_denotes _ hdenotes
      simp [hbody, hfilled]
    · simp only [hbody, hstatus, true_and, Except.ok.injEq, Option.some.injEq, exists_eq_left']
      exact ⟨fun heq => heq ▸ hdenotes, hdenotes.inj⟩
    · exact faults_of_ok hbody hstatus _ _ fun h => h.2 _ hdenotes
  | undecoded hbody hstatus hblank hdenotes =>
    exact ⟨by simp [hbody, hblank], by simp [hbody, hdenotes],
      faults_of_undecoded hbody hstatus _ _ ⟨hblank, hdenotes⟩⟩

theorem lookupSays_absent {r : Response} (h : r.status = 404) : LookupSays r (.ok .absent) := by
  refine ⟨by simp [h], by simp [h, Succeeded], ?_⟩
  constructor <;> simp [h, Succeeded]

/-- **Every response to a lookup says what it should.** -/
theorem lookupOf_answer (r : Response) : LookupSays r (lookupOf r) := by
  unfold lookupOf
  by_cases h404 : r.status = 404
  · rw [if_pos h404]
    exact lookupSays_absent h404
  rw [if_neg h404]
  have hreading := decode_reading r
  generalize decode r = result at hreading ⊢
  cases hreading with
  | unreadable hbody =>
    refine ⟨by simp [h404], by simp [hbody], ?_⟩
    constructor <;> simp [hbody, h404]
  | refused hbody hstatus =>
    exact ⟨by simp [h404], by simp [hstatus], refusal_faults hbody hstatus h404 _⟩
  | blank hbody hstatus hblank =>
    exact ⟨by simp [h404], by simp [hbody, hblank.not_denotes],
      faults_of_undecoded hbody hstatus _ _ hblank.not_denotes⟩
  | @resource body resource hbody hstatus hdenotes =>
    refine ⟨by simp [h404], fun resource' => ?_, ?_⟩
    · simp only [hbody, hstatus, true_and, Except.ok.injEq, Lookup.found.injEq, Option.some.injEq,
        exists_eq_left']
      exact ⟨fun heq => heq ▸ hdenotes, hdenotes.inj⟩
    · exact faults_of_ok hbody hstatus _ _ fun h => h _ hdenotes
  | undecoded hbody hstatus hblank hdenotes =>
    exact ⟨by simp [h404], by simp [hbody, hdenotes],
      faults_of_undecoded hbody hstatus _ _ hdenotes⟩

/-- **Every response to a creation says what it should.** -/
theorem decode_answer (r : Response) : CreationSays r (decode r) :=
  creationSays_of_reading (decode_reading r)

/-! ## 4. Calls -/

section Calls

variable (m : ResourceManager) (network : Network) {r : Response} {w : Wire}

theorem get_answer {url : Url} (hanswer : w.answer = some r)
    (hsendable : Request.sendable network ⟨.get, url, m.token, none⟩) :
    LookupSays r (m.get network url w).result := by
  rcases (get_asked m network url w).or with ⟨hunsent, -, -⟩ | ⟨-, hresult, -⟩
  · exact absurd hsendable hunsent
  · rw [hresult, hanswer]
    exact lookupOf_answer r

theorem put_answer {url : Url} {document : Json} (hanswer : w.answer = some r)
    (hsendable : Request.sendable network ⟨.put, url, m.token, some document⟩) :
    CreationSays r (m.put network url document w).result := by
  rcases (put_asked m network url w document).or with ⟨hunsent, -, -⟩ | ⟨-, hresult, -⟩
  · exact absurd hsendable hunsent
  · rw [hresult, hanswer]
    exact decode_answer r

/-- A service without a location is created by the PUT that follows the lookup of its
    environment. -/
theorem createService_answer {group environment name : String} {payload : ServicePayload}
    (hnone : payload.location = none) {location : String}
    (hlocated : (m.environmentLocation network group environment w).result = .ok location)
    (hanswer : (m.environmentLocation network group environment w).state.answer = some r)
    (hsendable : Request.sendable network ⟨.put, m.serviceUrl group name, m.token,
      some { payload with location := some location }.toJson⟩) :
    CreationSays r (m.createService network group environment name payload w).result := by
  unfold createService
  rw [hnone]
  dsimp only
  rw [Action.bind_run_ok hlocated]
  simp only [Action.debug, Action.log_bind_run]
  exact put_answer m network hanswer hsendable

/-- **What the final response says** of a lookup and of a creation, for every response: absence is
    read off a 404 to a lookup and off nothing else, and every other failure is an error of its
    kind, told with some words. A service without a location is created after its environment was
    looked up. -/
theorem answers_say (r : Response) :
    (∀ w url, w.answer = some r → Request.sendable network ⟨.get, url, m.token, none⟩ →
      LookupSays r (m.get network url w).result) ∧
    (∀ w url document, w.answer = some r →
      Request.sendable network ⟨.put, url, m.token, some document⟩ →
      CreationSays r (m.put network url document w).result) ∧
    (∀ w group environment name payload location,
      let looked := m.environmentLocation network group environment w
      payload.location = none → looked.result = .ok location → looked.state.answer = some r →
      Request.sendable network ⟨.put, m.serviceUrl group name, m.token,
        some { payload with location := some location }.toJson⟩ →
      CreationSays r (m.createService network group environment name payload w).result) ∧
    ∀ status body message, Worded status body message → message ≠ "" :=
  ⟨fun _ _ => get_answer m network, fun _ _ _ => put_answer m network,
    fun _ _ _ _ _ _ hnone hlocated => createService_answer m network hnone hlocated,
    fun _ _ _ => Worded.ne_empty⟩

/-- A refused creation is told with code and message, and a lookup whose body breaks off is absent
    when its status is 404. -/
theorem answers_say_denied_truncated :
    let m : ResourceManager :=
      ⟨⟨"https".toList, some ⟨[], "localhost".toList, none⟩, .segments [[]], none, none⟩, ⟨0⟩,
        "2023-05-01", "token"⟩
    let body := "\x7b\"error\": \x7b\"code\": \"Denied\", \"message\": \"no right\"\x7d\x7d"
    let denied := Delivery.complete 403 (Text.utf8 body.toList)
    (m.put ⟨fun _ => true⟩ m.endpoint .null ⟨[denied], []⟩).result =
      .error (.unauthorized "Denied: no right") ∧
    (m.get ⟨fun _ => true⟩ m.endpoint ⟨[.truncated 404], []⟩).result = .ok .absent := by
  intro m body denied
  obtain ⟨-, hput, -, -⟩ := answers_say m ⟨fun _ => true⟩
    ⟨403, some (Text.ofUtf8Lossy (Text.utf8 body.toList))⟩
  obtain ⟨hget, -, -, -⟩ := answers_say m ⟨fun _ => true⟩ ⟨404, none⟩
  constructor
  · have hwords := hput ⟨[denied], []⟩ m.endpoint .null rfl ⟨by decide, rfl⟩
    rw [hwords.faults.unauthorized]
    exact ⟨_, rfl, .inr rfl, worded_iff.mpr (by decide +kernel)⟩
  · have hwords := hget ⟨[.truncated 404], []⟩ m.endpoint rfl ⟨by decide, rfl⟩
    rw [hwords.absent]

end Calls

end DaprHosting.ResourceManager
