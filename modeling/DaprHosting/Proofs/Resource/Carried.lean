import DaprHosting.Proofs.Json.Records
import DaprHosting.Proofs.Json.Settled
import DaprHosting.Resource

/-!
# Resources are carried through

A resource takes its id and its name out of an object, and keeps what the object says besides
(`ofJson?_object_eq_some_iff`). Written again it says the same, but for an id or a name that was
`null` (`says_of_ofJson?`); and what was written is read as the resource that it was written for
(`ofJson?_toJson`), up to the depth that the reader allows.
-/

namespace DaprHosting.Resource

open Json (Integral SettlesTo Settled occurrences settleMembers? settleMembers?_eq_some_iff)

/-! ## 1. Reading member by member -/

/-- The values under a name. -/
def valuesOf (name : String) (ms : List (String × Json)) : List Json :=
  (ms.filter fun m => m.1 == name).map Prod.snd

theorem valuesOf_cons_of_ne {name k : String} (h : k ≠ name) {j : Json}
    {ms : List (String × Json)} : valuesOf name ((k, j) :: ms) = valuesOf name ms := by
  have hne : ¬ ((k, j).1 == name) = true := by rwa [beq_iff_eq]
  have hfilter : ((k, j) :: ms).filter (fun m => m.1 == name) = ms.filter fun m => m.1 == name :=
    List.filter_cons_of_neg hne
  rw [valuesOf, hfilter, valuesOf]

/-- The name is neither that of the id nor that of the name. -/
def isOther (name : String) : Bool := name != "id" && name != "name"

/-- The other members. -/
def others (ms : List (String × Json)) : List (String × Json) := ms.filter fun m => isOther m.1

/-- **What stands under the name of an optional string**: nothing, `null` or a string, once. -/
inductive Optional : List Json → Option String → Prop where
  | missing : Optional [] none
  | null : Optional [.null] none
  | string (s : String) : Optional [.string s] (some s)

/-- The values fill a slot that may have been filled before, but not twice. -/
inductive Fills (slot : Option (Option String)) : List Json → Option (Option String) → Prop where
  | missing : Fills slot [] slot
  | once {j : Json} {s : Option String} (hfree : slot = none)
      (h : Json.nullable Json.string? j = some s) : Fills slot [j] (some s)

theorem fills_nil_iff {slot filled : Option (Option String)} :
    Fills slot [] filled ↔ filled = slot := by
  constructor
  · intro h
    cases h
    rfl
  · rintro rfl
    exact .missing

theorem fills_cons_iff {slot filled : Option (Option String)} {j : Json} {js : List Json} :
    Fills slot (j :: js) filled ↔
      slot = none ∧ ∃ s, Json.nullable Json.string? j = some s ∧ Fills (some s) js filled := by
  constructor
  · intro h
    cases h with
    | once hfree h => exact ⟨hfree, _, h, .missing⟩
  · rintro ⟨hfree, s, h, hrest⟩
    cases hrest with
    | missing => exact .once hfree h
    | once hfilled => cases hfilled

/-- A slot that was free is filled with what stands there. -/
theorem exists_fills_iff {js : List Json} {o : Option String} :
    (∃ filled, Fills none js filled ∧ filled.join = o) ↔ Optional js o := by
  constructor
  · rintro ⟨filled, h, rfl⟩
    cases h with
    | missing => exact .missing
    | @once j s _ h =>
      cases j with
      | null =>
        cases h
        exact .null
      | string t =>
        cases h
        exact .string t
      | bool | number | array | object | void => cases h
  · intro h
    cases h with
    | missing => exact ⟨none, .missing, rfl⟩
    | null => exact ⟨some none, .once rfl rfl, rfl⟩
    | string s => exact ⟨some (some s), .once rfl rfl, rfl⟩

section Adding

variable {d d' : Draft} {j : Json}

theorem add?_id : d.add? "id" j = some d' ↔
    d.id = none ∧ ∃ s, Json.nullable Json.string? j = some s ∧ d' = { d with id := some s } := by
  rw [Draft.add?, if_pos rfl]
  cases d.id with
  | some id => exact iff_of_false nofun fun h => nomatch h.1
  | none =>
    simp only [Option.isSome_none, Bool.false_eq_true, if_false, Option.map_eq_some_iff, true_and,
      eq_comm (a := d')]

theorem add?_name : d.add? "name" j = some d' ↔
    d.name = none ∧ ∃ s, Json.nullable Json.string? j = some s ∧
      d' = { d with name := some s } := by
  rw [Draft.add?, if_neg (by decide), if_pos rfl]
  cases d.name with
  | some name => exact iff_of_false nofun fun h => nomatch h.1
  | none =>
    simp only [Option.isSome_none, Bool.false_eq_true, if_false, Option.map_eq_some_iff, true_and,
      eq_comm (a := d')]

theorem add?_other {k : String} (hk : isOther k = true) : d.add? k j = some d' ↔
    ∃ v, j.settle? = some v ∧ d' = { d with properties := d.properties.insert k v } := by
  rw [isOther, Bool.and_eq_true, bne_iff_ne, bne_iff_ne] at hk
  rw [Draft.add?, if_neg hk.1, if_neg hk.2, Option.map_eq_some_iff]
  simp only [eq_comm (a := d')]

/-- **Members are added one after the other**: those of the two names fill their slots, and the
    others are set as they are settled. -/
theorem addAll?_eq_some_iff {ms : List (String × Json)} :
    d.addAll? ms = some d' ↔
      Fills d.id (valuesOf "id" ms) d'.id ∧ Fills d.name (valuesOf "name" ms) d'.name ∧
        ∃ vs, List.Forall₂ SettlesTo (others ms) vs ∧
          d'.properties = d.properties.insertAll vs := by
  induction ms generalizing d with
  | nil =>
    have hnil : d.addAll? [] = some d := rfl
    rw [hnil, Option.some.injEq]
    constructor
    · rintro rfl
      exact ⟨.missing, .missing, [], .nil, rfl⟩
    · rintro ⟨hid, hname, vs, hvs, hproperties⟩
      obtain ⟨id, name, properties⟩ := d'
      cases hvs
      cases fills_nil_iff.mp hid
      cases fills_nil_iff.mp hname
      cases hproperties
      rfl
  | cons m ms ih =>
    obtain ⟨k, j⟩ := m
    rw [Draft.addAll?, Option.bind_eq_some_iff]
    by_cases hid : k = "id"
    · subst hid
      have hvalues : valuesOf "id" (("id", j) :: ms) = j :: valuesOf "id" ms := rfl
      have hname : valuesOf "name" (("id", j) :: ms) = valuesOf "name" ms := rfl
      have hothers : others (("id", j) :: ms) = others ms := rfl
      rw [hvalues, hname, hothers, fills_cons_iff]
      simp only [add?_id, ih]
      constructor
      · rintro ⟨_, ⟨hfree, s, hs, rfl⟩, hid, hrest⟩
        exact ⟨⟨hfree, s, hs, hid⟩, hrest⟩
      · rintro ⟨⟨hfree, s, hs, hid⟩, hrest⟩
        exact ⟨_, ⟨hfree, s, hs, rfl⟩, hid, hrest⟩
    by_cases hname : k = "name"
    · subst hname
      have hvalues : valuesOf "name" (("name", j) :: ms) = j :: valuesOf "name" ms := rfl
      have hid : valuesOf "id" (("name", j) :: ms) = valuesOf "id" ms := rfl
      have hothers : others (("name", j) :: ms) = others ms := rfl
      rw [hvalues, hid, hothers, fills_cons_iff]
      simp only [add?_name, ih]
      constructor
      · rintro ⟨_, ⟨hfree, s, hs, rfl⟩, hid, hname, hrest⟩
        exact ⟨hid, ⟨hfree, s, hs, hname⟩, hrest⟩
      · rintro ⟨hid, ⟨hfree, s, hs, hname⟩, hrest⟩
        exact ⟨_, ⟨hfree, s, hs, rfl⟩, hid, hname, hrest⟩
    · have hother : isOther k = true := by simp [isOther, hid, hname]
      have hothers : others ((k, j) :: ms) = (k, j) :: others ms := List.filter_cons_of_pos hother
      rw [valuesOf_cons_of_ne hid, valuesOf_cons_of_ne hname, hothers]
      simp only [add?_other hother, ih]
      constructor
      · rintro ⟨_, ⟨v, hv, rfl⟩, hid, hname, vs, hvs, hproperties⟩
        exact ⟨hid, hname, (k, v) :: vs, .cons ⟨rfl, hv⟩ hvs, hproperties⟩
      · rintro ⟨hid, hname, _, hvs, hproperties⟩
        cases hvs with
        | @cons _ m' _ vs hm hvs =>
          obtain ⟨k', v⟩ := m'
          obtain ⟨hk, hv⟩ := hm
          cases hk
          exact ⟨_, ⟨v, hv, rfl⟩, hid, hname, vs, hvs, hproperties⟩

end Adding

/-- **An object is read as a resource** when it is not too deep, id and name are optional strings,
    and all the rest can be settled. -/
theorem ofJson?_object_eq_some_iff {ms : List (String × Json)} {r : Resource} :
    ofJson? (.object ms) = some r ↔
      (Json.object ms).depth ≤ maxDepth ∧ Optional (valuesOf "id" ms) r.id ∧
        Optional (valuesOf "name" ms) r.name ∧
        ∃ vs, List.Forall₂ SettlesTo (others ms) vs ∧ r.properties = OrderedMap.ofList vs := by
  rw [ofJson?]
  by_cases hdepth : maxDepth < (Json.object ms).depth
  · rw [if_pos hdepth]
    exact iff_of_false nofun fun h => absurd h.1 (Nat.not_le.mpr hdepth)
  · rw [if_neg hdepth, Json.members?, Option.bind_some, Option.map_eq_some_iff]
    simp only [addAll?_eq_some_iff, ← exists_fills_iff]
    constructor
    · rintro ⟨d, ⟨hid, hname, vs, hvs, hproperties⟩, rfl⟩
      exact ⟨Nat.not_lt.mp hdepth, ⟨d.id, hid, rfl⟩, ⟨d.name, hname, rfl⟩, vs, hvs, hproperties⟩
    · rintro ⟨-, ⟨id, hid, hjoin⟩, ⟨name, hname, hjoin'⟩, vs, hvs, hproperties⟩
      refine ⟨⟨id, name, r.properties⟩, ⟨hid, hname, vs, hvs, hproperties⟩, ?_⟩
      dsimp only
      rw [hjoin, hjoin']

/-! ## 2. What is kept besides -/

/-- **The resource may have been read**: its properties are settled, and none of them is an id or a
    name. -/
structure Regular (r : Resource) : Prop where
  noId : "id" ∉ r.properties.names
  noName : "name" ∉ r.properties.names
  settled : ∀ e ∈ r.properties.entries, Settled e.2

/-- **What is read is of this kind.** -/
theorem regular_of_ofJson? {j : Json} {r : Resource} (h : ofJson? j = some r) : r.Regular := by
  obtain ⟨ms, rfl⟩ : ∃ ms, j = .object ms := by
    rw [ofJson?] at h
    split at h
    · cases h
    · obtain ⟨ms, hms, -⟩ := Option.bind_eq_some_iff.mp h
      cases j with
      | object ms => exact ⟨ms, rfl⟩
      | null | bool | number | string | array | void => cases hms
  obtain ⟨-, -, -, vs, hvs, hproperties⟩ := ofJson?_object_eq_some_iff.mp h
  have hbeside : ∀ e ∈ r.properties.entries, isOther e.1 = true ∧ Settled e.2 := by
    intro e he
    rw [hproperties] at he
    obtain ⟨m, hm, hname, hsettle⟩ :=
      exists_left_of_forall₂ hvs (OrderedMap.mem_of_mem_entries_ofList he)
    rw [hname]
    exact ⟨(List.mem_filter.mp hm).2, Json.settled_of_settle? hsettle⟩
  have hother : ∀ name ∈ r.properties.names, isOther name = true := by
    intro name hname
    obtain ⟨e, he, rfl⟩ := List.mem_map.mp hname
    exact (hbeside e he).1
  exact ⟨fun hid => absurd (hother _ hid) (by decide),
    fun hname => absurd (hother _ hname) (by decide), fun e he => (hbeside e he).2⟩

/-- The members of a document of a resource. -/
def members (r : Resource) : List (String × Json) :=
  Json.member? "id" .string r.id ++ Json.member? "name" .string r.name ++ r.properties.entries

theorem toJson_eq (r : Resource) : r.toJson = .object r.members := rfl

theorem valuesOf_eq_nil {name : String} {ms : List (String × Json)}
    (h : name ∉ ms.map Prod.fst) : valuesOf name ms = [] := by
  rw [valuesOf, List.map_eq_nil_iff, List.filter_eq_nil_iff]
  intro m hm hname
  exact h (beq_iff_eq.mp hname ▸ List.mem_map_of_mem hm)

/-- What is written for an optional string. -/
theorem optional_written {js : List Json} (hjs : js = []) (o : Option String) :
    Optional ((o.map Json.string).toList ++ js) o := by
  subst hjs
  cases o with
  | none => exact .missing
  | some s => exact .string s

theorem valuesOf_id_members (r : Resource) : valuesOf "id" r.members =
    (r.id.map Json.string).toList ++ valuesOf "id" r.properties.entries := by
  obtain ⟨id, name, properties⟩ := r
  cases id <;> cases name <;> rfl

theorem valuesOf_name_members (r : Resource) : valuesOf "name" r.members =
    (r.name.map Json.string).toList ++ valuesOf "name" r.properties.entries := by
  obtain ⟨id, name, properties⟩ := r
  cases id <;> cases name <;> rfl

theorem others_members (r : Resource) : others r.members = others r.properties.entries := by
  obtain ⟨id, name, properties⟩ := r
  cases id <;> cases name <;> rfl

theorem Regular.others_entries {r : Resource} (h : r.Regular) :
    others r.properties.entries = r.properties.entries := by
  refine List.filter_eq_self.mpr fun e he => ?_
  have hmem : e.1 ∈ r.properties.names := List.mem_map_of_mem he
  have hid : e.1 ≠ "id" := fun hid => h.noId (hid ▸ hmem)
  have hname : e.1 ≠ "name" := fun hname => h.noName (hname ▸ hmem)
  simp [isOther, hid, hname]

/-- **A resource is read from its document**, unless this is too deep. -/
theorem ofJson?_toJson {r : Resource} (h : r.Regular) :
    ofJson? r.toJson = if maxDepth < r.toJson.depth then none else some r := by
  split
  · rename_i hdepth
    rw [ofJson?, if_pos hdepth]
  · rename_i hdepth
    rw [toJson_eq] at hdepth ⊢
    refine ofJson?_object_eq_some_iff.mpr
      ⟨Nat.not_lt.mp hdepth, ?_, ?_, r.properties.entries, ?_, ?_⟩
    · rw [valuesOf_id_members]
      exact optional_written (valuesOf_eq_nil h.noId) r.id
    · rw [valuesOf_name_members]
      exact optional_written (valuesOf_eq_nil h.noName) r.name
    · rw [others_members, h.others_entries]
      exact List.forall₂_same.mpr fun e he => ⟨rfl, Json.settle?_of_settled (h.settled e he)⟩
    · exact (OrderedMap.ext_entries (OrderedMap.entries_ofList r.properties.nodup)).symm

/-! ## 3. The same object -/

/-- The member stays: it is not an id or a name that is `null`. -/
def stays : String × Json → Bool
  | (name, .null) => isOther name
  | _ => true

/-- **The document of the resource is this object**, in whatever order, but for an id or a name that
    is `null`. -/
def Says (r : Resource) (es : List (String × Json)) : Prop :=
  ∃ es', r.toJson = .object es' ∧ es'.Perm (es.filter stays)

/-- Members settle name by name. -/
theorem forall₂_filter {ms vs : List (String × Json)} (h : List.Forall₂ SettlesTo ms vs)
    (p : String → Bool) :
    List.Forall₂ SettlesTo (ms.filter fun m => p m.1) (vs.filter fun m => p m.1) := by
  refine List.rel_filter (fun m m' hm => ?_) h
  dsimp only
  rw [hm.1]

/-- Of an optional string there stays what is written for it. -/
theorem filter_stays_of_optional {name : String} (hname : isOther name = false)
    {ms vs : List (String × Json)} {o : Option String} (h : List.Forall₂ SettlesTo ms vs)
    (ho : Optional (valuesOf name ms) o) :
    ((OrderedMap.ofList vs).entries.filter fun m => m.1 == name).filter stays =
      Json.member? name .string o := by
  have hsettle := forall₂_filter h fun k => k == name
  have hnames : ∀ m ∈ ms.filter (fun m => m.1 == name), m.1 = name :=
    fun m hm => beq_iff_eq.mp (List.mem_filter.mp hm).2
  have hone : ∀ {m : String × Json} {gs : List (String × Json)}, m.1 = name →
      List.Forall₂ SettlesTo [m] gs → ∃ v, m.2.settle? = some v ∧ gs = [(name, v)] := by
    intro m gs hm hgs
    obtain ⟨⟨k, v⟩, _, ⟨hk, hv⟩, hnil, rfl⟩ := List.forall₂_cons_left_iff.mp hgs
    cases hnil
    cases hk
    exact ⟨v, hv, congrArg (fun name => [(name, v)]) hm⟩
  rw [← OrderedMap.entries_ofList_filter fun k => k == name]
  rw [valuesOf] at ho
  generalize ms.filter (fun m => m.1 == name) = fs at ho hsettle hnames
  generalize vs.filter (fun m => m.1 == name) = gs at hsettle ⊢
  generalize hjs : fs.map Prod.snd = js at ho
  cases ho with
  | missing =>
    cases List.map_eq_nil_iff.mp hjs
    cases hsettle
    rfl
  | null =>
    obtain ⟨m, rfl, hm⟩ := List.map_eq_singleton_iff.mp hjs
    obtain ⟨v, hv, rfl⟩ := hone (hnames m (.head _)) hsettle
    rw [hm] at hv
    cases hv
    exact List.filter_cons_of_neg (by simp [stays, hname])
  | string s =>
    obtain ⟨m, rfl, hm⟩ := List.map_eq_singleton_iff.mp hjs
    obtain ⟨v, hv, rfl⟩ := hone (hnames m (.head _)) hsettle
    rw [hm] at hv
    cases hv
    rfl

/-- Members are those of the two names, and the others. -/
theorem perm_others (es : List (String × Json)) :
    ((es.filter fun m => m.1 == "id") ++ (es.filter fun m => m.1 == "name") ++ others es).Perm
      es := by
  have hid := List.filter_append_perm (fun m => m.1 == "id") es
  have hname := List.filter_append_perm (fun m => m.1 == "name") (es.filter fun m => !(m.1 == "id"))
  have hnames : (es.filter fun m => (m.1 == "name") && !(m.1 == "id")) =
      es.filter fun m => m.1 == "name" := by
    refine List.filter_congr fun m _ => ?_
    by_cases h : m.1 = "name" <;> simp [h]
  have hothers : (es.filter fun m => !(m.1 == "name") && !(m.1 == "id")) = others es := by
    refine List.filter_congr fun m _ => ?_
    simp only [isOther, bne, Bool.and_comm]
  rw [List.filter_filter, List.filter_filter, hnames, hothers] at hname
  rw [List.append_assoc]
  exact (hname.append_left _).trans hid

/-- **What is read says what the object said.** -/
theorem says_of_ofJson? {ms es : List (String × Json)} {r : Resource}
    (hsettle : (Json.object ms).settle? = some (.object es)) (h : ofJson? (.object ms) = some r) :
    r.Says es := by
  obtain ⟨vs, hvs, hes⟩ := Json.settle?_object_eq_some_iff.mp hsettle
  cases hes
  obtain ⟨-, hid, hname, vs', hvs', hproperties⟩ := ofJson?_object_eq_some_iff.mp h
  have hothers : vs' = others vs := by
    have hsame := settleMembers?_eq_some_iff.mpr (forall₂_filter hvs isOther)
    rw [← others, settleMembers?_eq_some_iff.mpr hvs'] at hsame
    exact Option.some.inj hsame
  have hentries : r.properties.entries = (others (OrderedMap.ofList vs).entries).filter stays := by
    rw [hproperties, hothers, others, OrderedMap.entries_ofList_filter isOther, others]
    refine (List.filter_eq_self.mpr fun e he => ?_).symm
    obtain ⟨k, j⟩ := e
    have hk := (List.mem_filter.mp he).2
    cases j with
    | null => exact hk
    | bool | number | string | array | object | void => rfl
  have hperm := (perm_others (OrderedMap.ofList vs).entries).filter stays
  rw [List.filter_append, List.filter_append, filter_stays_of_optional rfl hvs hid,
    filter_stays_of_optional rfl hvs hname, ← hentries] at hperm
  exact ⟨r.members, rfl, hperm⟩

/-- The document has no member that the object has not. -/
theorem Says.subset {r : Resource} {es : List (String × Json)} (h : r.Says es) :
    r.members ⊆ es := by
  obtain ⟨es', hes, hperm⟩ := h
  cases hes
  exact fun m hm => (List.mem_filter.mp (hperm.subset hm)).1

theorem Says.depth_le {r : Resource} {es : List (String × Json)} (h : r.Says es) :
    r.toJson.depth ≤ (Json.object es).depth := by
  rw [toJson_eq, Json.depth, Json.depth]
  refine Nat.succ_le_succ (Json.depthMembers_le_iff.mpr fun m hm => ?_)
  exact Json.depthMembers_le_iff.mp (Nat.le_refl _) m (h.subset hm)

theorem Says.integral {r : Resource} {es : List (String × Json)} (h : r.Says es)
    (hes : Integral (.object es)) : Integral r.toJson := by
  cases hes with
  | object hes => exact .object fun m hm => hes m (h.subset hm)

/-! ## 4. Objects as resources -/

/-- The resource that a text describes. -/
def read? (text : String) : Option Resource := (Json.read? text).bind ofJson?

/-- **The object is carried through by the resource.** -/
structure CarriesThrough (r : Resource) (ms : List (String × Json)) : Prop where
  /-- The resource is read from the object, and from each text of it. -/
  read : ofJson? (.object ms) = some r ∧
    ∀ text, Json.read? text = some (.object ms) → read? text = some r
  /-- Its document is this object, and where names are repeated, what the object says. -/
  same : (Settled (.object ms) → r.Says ms) ∧
    ∃ es, (Json.object ms).settle? = some (.object es) ∧ r.Says es
  /-- The text of the document is read as the resource again. -/
  again : Json.read? r.toJson.compact = some r.toJson ∧ read? r.toJson.compact = some r
  /-- The id that counts is the string under this name, unless this is empty. -/
  effectiveId : ∀ id, r.effectiveId = some id ↔ .string id ∈ valuesOf "id" ms ∧ id ≠ ""

theorem Optional.eq_some_iff {js : List Json} {o : Option String} (h : Optional js o) (s : String) :
    o = some s ↔ .string s ∈ js := by
  cases h with
  | missing => exact iff_of_false nofun nofun
  | null => exact iff_of_false nofun fun h => nomatch List.mem_singleton.mp h
  | string t =>
    rw [List.mem_singleton, Option.some.injEq, Json.string.injEq]
    exact eq_comm

/-- What can be settled is read, when id and name are optional strings. -/
theorem exists_ofJson? {ms es : List (String × Json)}
    (hsettle : (Json.object ms).settle? = some (.object es))
    (hdepth : (Json.object ms).depth ≤ maxDepth) (hid : ∃ o, Optional (valuesOf "id" ms) o)
    (hname : ∃ o, Optional (valuesOf "name" ms) o) : ∃ r, ofJson? (.object ms) = some r := by
  obtain ⟨vs, hvs, -⟩ := Json.settle?_object_eq_some_iff.mp hsettle
  obtain ⟨id, hid⟩ := hid
  obtain ⟨name, hname⟩ := hname
  exact ⟨⟨id, name, OrderedMap.ofList (others vs)⟩, ofJson?_object_eq_some_iff.mpr
    ⟨hdepth, hid, hname, others vs, forall₂_filter hvs isOther, rfl⟩⟩

/-- **What is read carries the object through.** -/
theorem carriesThrough_of_ofJson? {ms : List (String × Json)} {r : Resource}
    (hintegral : Integral (.object ms)) (h : ofJson? (.object ms) = some r) :
    r.CarriesThrough ms := by
  obtain ⟨j, hsettle, hj⟩ := hintegral.exists_settle?
  obtain ⟨vs, hvs, rfl⟩ := Json.settle?_object_eq_some_iff.mp hsettle
  have hsaid := says_of_ofJson? hsettle h
  have hread := Json.read?_compact (hsaid.integral hj)
  have hdepth : r.toJson.depth ≤ maxDepth :=
    (hsaid.depth_le.trans (Json.depth_le_of_settle? hsettle)).trans
      (ofJson?_object_eq_some_iff.mp h).1
  refine ⟨⟨h, fun text htext => ?_⟩, ⟨fun hsettled => ?_, _, hsettle, hsaid⟩, ⟨hread, ?_⟩,
    fun id => ?_⟩
  · rw [read?, htext, Option.bind_some, h]
  · exact says_of_ofJson? (Json.settle?_of_settled hsettled) h
  · rw [read?, hread, Option.bind_some, ofJson?_toJson (regular_of_ofJson? h),
      if_neg (Nat.not_lt.mpr hdepth)]
  · rw [effectiveId_eq_some_iff, (ofJson?_object_eq_some_iff.mp h).2.1.eq_some_iff]

/-- **Resources are carried through.** Each object of texts and integers that is not too deep, with
    an id and a name that are strings, `null` or missing, is read as a resource that carries it
    through; whatever is read, its properties hold neither an id nor a name; each resource of this
    kind is read from its document, up to the depth that is allowed, and from the text of this if it
    is one of texts and integers; and the id that counts is the one that there is, if it is not
    empty. -/
theorem resources_are_carried :
    (∀ ms : List (String × Json), Integral (.object ms) → (Json.object ms).depth ≤ maxDepth →
      (∃ o, Optional (valuesOf "id" ms) o) → (∃ o, Optional (valuesOf "name" ms) o) →
      ∃ r : Resource, r.CarriesThrough ms) ∧
    (∀ (j : Json) (r : Resource), ofJson? j = some r → r.Regular) ∧
    (∀ r : Resource, r.Regular →
      ofJson? r.toJson = (if maxDepth < r.toJson.depth then none else some r) ∧
      (Integral r.toJson → Json.read? r.toJson.compact = some r.toJson)) ∧
    ∀ (r : Resource) (id : String), r.effectiveId = some id ↔ r.id = some id ∧ id ≠ "" := by
  refine ⟨?carried, fun _ _ => regular_of_ofJson?, ?written, fun _ _ => effectiveId_eq_some_iff⟩
  case carried =>
    intro ms hintegral hdepth hid hname
    obtain ⟨j, hsettle, -⟩ := hintegral.exists_settle?
    obtain ⟨vs, -, rfl⟩ := Json.settle?_object_eq_some_iff.mp hsettle
    obtain ⟨r, hread⟩ := exists_ofJson? hsettle hdepth hid hname
    exact ⟨r, carriesThrough_of_ofJson? hintegral hread⟩
  case written =>
    intro r hr
    exact ⟨ofJson?_toJson hr, Json.read?_compact⟩

/-- An object with a name that is `null` before its id, with members of their own below, and a name
    that is repeated there. -/
theorem resources_are_carried_null_name :
    let tags : Json := .object [("b", .array [Json.ofInt (-2), .null]), ("b", .string "x")]
    let ms : List (String × Json) := [("name", .null), ("tags", tags), ("id", .string "/x")]
    ∃ r : Resource, Resource.read? (Json.object ms).compact = some r ∧
      r.effectiveId = some "/x" ∧
      (∃ es, r.toJson = .object es ∧
        es.Perm [("tags", .object [("b", .string "x")]), ("id", .string "/x")]) ∧
      ofJson? r.toJson = (if maxDepth < r.toJson.depth then none else some r) := by
  intro tags ms
  obtain ⟨hcarried, hregular, hwritten, -⟩ := resources_are_carried
  have htags : Integral tags := by
    refine .object fun m hm => ?_
    simp only [List.mem_cons, List.not_mem_nil, or_false] at hm
    rcases hm with rfl | rfl
    · refine .array fun j hj => ?_
      simp only [List.mem_cons, List.not_mem_nil, or_false] at hj
      rcases hj with rfl | rfl
      · exact .integer (by decide)
      · exact .null
    · exact .string "x"
  have hintegral : Integral (.object ms) := by
    refine .object fun m hm => ?_
    simp only [ms, List.mem_cons, List.not_mem_nil, or_false] at hm
    rcases hm with rfl | rfl | rfl
    · exact .null
    · exact htags
    · exact .string "/x"
  obtain ⟨r, hread, ⟨-, es, hes, hsaid⟩, -, hid⟩ := hcarried ms hintegral (by decide)
    ⟨_, .string "/x"⟩ ⟨_, .null⟩
  have hsettle : (Json.object ms).settle? = some (.object
      [("name", .null), ("tags", .object [("b", .string "x")]), ("id", .string "/x")]) := rfl
  rw [hsettle] at hes
  cases hes
  exact ⟨r, hread.2 _ (Json.read?_compact hintegral), (hid "/x").mpr ⟨.head _, by decide⟩, hsaid,
    (hwritten r (hregular _ r hread.1)).1⟩

end DaprHosting.Resource
