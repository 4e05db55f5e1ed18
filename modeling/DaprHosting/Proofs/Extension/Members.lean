import DaprHosting.Proofs.Extension.Documents
import DaprHosting.Proofs.Json.Grammar

/-!
# An extension is read by the names of its members

Only the members with the name of a field tell what an extension is: not their order, nor any others
however deep they are (`ofJson?_congr`). A field of the document that need not be there is as good
as left out when it is `null`, and a map when it is the empty object. The same is said of texts,
which are taken apart at their members. Half of a surrogate pair is no sign of a string, so a member
with one in its name spoils the whole document, though this name is no field's.
-/

namespace DaprHosting

open Json (fieldOr optional AgreeOn occurrences blank_nil contents Member LiteralText ObjectText)

namespace Extension

/-! ## 1. Fields -/

/-- A field of an extension. -/
inductive Field where
  | extensionType | autoUpgradeMinorVersion | releaseTrain | version | scope | settings
  | protectedSettings | identity
deriving DecidableEq, Repr

namespace Field

/-- Every field, in their order. -/
def all : List Field :=
  [.extensionType, .autoUpgradeMinorVersion, .releaseTrain, .version, .scope, .settings,
   .protectedSettings, .identity]

/-- The name of a field in a document. -/
def name : Field → String
  | .extensionType => "extensionType"
  | .autoUpgradeMinorVersion => "autoUpgradeMinorVersion"
  | .releaseTrain => "releaseTrain"
  | .version => "version"
  | .scope => "scope"
  | .settings => "configurationSettings"
  | .protectedSettings => "configurationProtectedSettings"
  | .identity => "identity"

/-- The field is a map of strings. -/
def IsMap (f : Field) : Prop := f = .settings ∨ f = .protectedSettings

/-- An extension need not have a value for the field. -/
def IsOptional (f : Field) : Prop :=
  f = .autoUpgradeMinorVersion ∨ f = .releaseTrain ∨ f = .version ∨ f = .identity

/-- **The value leaves the field unset**: `null`, and for a map the empty object as well. -/
inductive Unset (f : Field) : Json → Prop where
  | null (h : f.IsOptional ∨ f.IsMap) : Unset f .null
  | empty (h : f.IsMap) : Unset f (.object [])

/-- **What stands under the name of the field is read as its value.** -/
def Reads (x : Extension) (v : Option Json) : Field → Prop
  | .extensionType => fieldOr "" Json.string? v = some x.extensionType
  | .autoUpgradeMinorVersion => optional Json.bool? v = some x.autoUpgradeMinorVersion
  | .releaseTrain => optional Json.string? v = some x.releaseTrain
  | .version => optional Json.string? v = some x.version
  | .scope => fieldOr {} Scope.ofJson? v = some x.scope
  | .settings => fieldOr .empty Json.strings? v = some x.settings
  | .protectedSettings => fieldOr .empty Json.strings? v = some x.protectedSettings
  | .identity => optional Identity.ofJson? v = some x.identity

end Field

/-- The extension with a field unset, where this is possible. -/
def without (x : Extension) : Field → Extension
  | .extensionType | .scope => x
  | .autoUpgradeMinorVersion => { x with autoUpgradeMinorVersion := none }
  | .releaseTrain => { x with releaseTrain := none }
  | .version => { x with version := none }
  | .settings => { x with settings := .empty }
  | .protectedSettings => { x with protectedSettings := .empty }
  | .identity => { x with identity := none }

namespace Field

variable {x : Extension} {f g : Field}

theorem mem_all (f : Field) : f ∈ all := by cases f <;> decide

theorem map_name_all : all.map name = fieldNames := rfl

theorem mem_fieldNames (f : Field) : f.name ∈ fieldNames :=
  map_name_all ▸ List.mem_map_of_mem f.mem_all

theorem name_inj (h : f.name = g.name) : f = g := by
  have hall : ∀ f ∈ all, ∀ g ∈ all, f.name = g.name → f = g := by decide
  exact hall f f.mem_all g g.mem_all h

/-- Only a field that may be missing can be unset. -/
theorem Unset.mayBeMissing {j : Json} (h : f.Unset j) : f.IsOptional ∨ f.IsMap := by
  cases h with
  | null h => exact h
  | empty h => exact .inr h

/-- Unset is read as not written. -/
theorem reads_unset {j : Json} (h : f.Unset j) : f.Reads x (some j) ↔ f.Reads x none := by
  cases h with
  | null h => rcases h with (rfl | rfl | rfl | rfl) | (rfl | rfl) <;> exact Iff.rfl
  | empty h => rcases h with rfl | rfl <;> exact Iff.rfl

/-- What is not written is unset already. -/
theorem without_of_reads_none (h : f.IsOptional ∨ f.IsMap) (hnone : f.Reads x none) :
    x.without f = x := by
  obtain ⟨extensionType, autoUpgrade, train, version, scope, settings, secrets, identity⟩ := x
  rcases h with (rfl | rfl | rfl | rfl) | (rfl | rfl) <;> cases hnone <;> rfl

theorem reads_none_without (h : f.IsOptional ∨ f.IsMap) : f.Reads (x.without f) none := by
  rcases h with (rfl | rfl | rfl | rfl) | (rfl | rfl) <;> rfl

/-- Unsetting a field leaves the others. -/
theorem reads_without_of_ne (h : g ≠ f) {v : Option Json} :
    g.Reads (x.without f) v ↔ g.Reads x v := by
  cases f <;> cases g <;> first | exact absurd rfl h | exact Iff.rfl

end Field

/-- **An object is read as an extension** when no field is written twice and each can be read. -/
theorem ofJson?_object_eq_some_iff {ms : List (String × Json)} {x : Extension} :
    ofJson? (.object ms) = some x ↔
      ∀ f : Field, occurrences f.name ms ≤ 1 ∧ f.Reads x ( entry? f.name ms) := by
  rw [ofJson?, Json.fields?]
  by_cases honce : (fieldNames.all fun name => occurrences name ms ≤ 1) = true
  · have hall : ∀ f : Field, occurrences f.name ms ≤ 1 := fun f =>
      of_decide_eq_true (List.all_eq_true.mp honce f.name f.mem_fieldNames)
    rw [if_pos honce]
    simp only [fieldNames, List.map_cons, List.map_nil, Option.bind_eq_bind, Option.bind_some,
      Option.bind_eq_some_iff, Option.pure_def, Option.some.injEq]
    constructor
    · rintro ⟨_, h₁, _, h₂, _, h₃, _, h₄, _, h₅, _, h₆, _, h₇, _, h₈, rfl⟩ f
      refine ⟨hall f, ?_⟩
      cases f <;> assumption
    · intro h
      exact ⟨_, (h .extensionType).2, _, (h .autoUpgradeMinorVersion).2, _, (h .releaseTrain).2, _,
        (h .version).2, _, (h .scope).2, _, (h .settings).2, _, (h .protectedSettings).2, _,
        (h .identity).2, rfl⟩
  · rw [if_neg honce]
    constructor
    · intro h
      cases h
    · intro h
      refine absurd (List.all_eq_true.mpr fun name hname => ?_) honce
      rw [← Field.map_name_all] at hname
      obtain ⟨f, -, rfl⟩ := List.mem_map.mp hname
      exact decide_eq_true (h f).1

/-- **Only the members that are fields tell.** -/
theorem ofJson?_congr {ms ms' : List (String × Json)} (h : AgreeOn fieldNames ms ms') :
    ofJson? (.object ms) = ofJson? (.object ms') := by
  rw [ofJson?, ofJson?, Json.fields?_congr h]

/-! ## 2. One member more -/

section Inserted

variable {before after : List (String × Json)} {x : Extension}

/-- **A member that is no field** changes nothing. -/
theorem ofJson?_insert_unknown {k : String} (hk : k ∉ fieldNames) (j : Json) :
    ofJson? (.object (before ++ (k, j) :: after)) = ofJson? (.object (before ++ after)) := by
  refine ofJson?_congr fun name hname => ?_
  have hne : ¬ ((k, j).1 == name) = true := by
    rw [beq_iff_eq]
    rintro rfl
    exact hk hname
  have hafter : ((k, j) :: after).filter (fun m => m.1 == name) =
      after.filter fun m => m.1 == name := List.filter_cons_of_neg hne
  rw [List.filter_append, hafter, ← List.filter_append]

/-- **The order of the members** means nothing. -/
theorem ofJson?_perm {ms ms' : List (String × Json)} (h : ms.Perm ms') :
    ofJson? (.object ms) = ofJson? (.object ms') :=
  ofJson?_congr fun _ _ => h.filter _

/-- **A field left out** is unset. -/
theorem ofJson?_leave_out {f : Field} {j : Json} (hf : f.IsOptional ∨ f.IsMap)
    (h : ofJson? (.object (before ++ (f.name, j) :: after)) = some x) :
    occurrences f.name (before ++ after) = 0 ∧
      ofJson? (.object (before ++ after)) = some (x.without f) := by
  rw [ofJson?_object_eq_some_iff] at h
  have hnone : occurrences f.name (before ++ after) = 0 := by
    have hle := (h f).1
    rw [Json.occurrences_insert, if_pos rfl] at hle
    omega
  refine ⟨hnone, ofJson?_object_eq_some_iff.mpr fun g => ?_⟩
  by_cases hg : g = f
  · subst hg
    rw [Json.entry?_of_occurrences hnone, hnone]
    exact ⟨Nat.zero_le _, Field.reads_none_without hf⟩
  · obtain ⟨hle, hread⟩ := h g
    have hname : g.name ≠ f.name := mt Field.name_inj hg
    rw [Json.occurrences_insert, if_neg hname.symm, Nat.add_zero] at hle
    rw [Json.entry?_insert_of_ne _ _ _ hname] at hread
    exact ⟨hle, (Field.reads_without_of_ne hg).mpr hread⟩

/-- **A field written as unset** is as good as not written. -/
theorem ofJson?_insert_unset {f : Field} {j : Json} (hj : f.Unset j)
    (hnone : occurrences f.name (before ++ after) = 0)
    (h : ofJson? (.object (before ++ after)) = some x) :
    ofJson? (.object (before ++ (f.name, j) :: after)) = some x := by
  rw [ofJson?_object_eq_some_iff] at h ⊢
  intro g
  obtain ⟨hle, hread⟩ := h g
  by_cases hg : g = f
  · subst hg
    have hbefore : occurrences g.name before = 0 := by
      rw [occurrences, List.filter_append, List.length_append] at hnone
      exact Nat.eq_zero_of_add_eq_zero_right hnone
    rw [Json.entry?_of_occurrences hnone] at hread
    rw [Json.occurrences_insert, if_pos rfl, hnone, entry?_append,
      Json.entry?_of_occurrences hbefore, Option.none_or, entry?, if_pos rfl]
    exact ⟨Nat.le_refl _, (Field.reads_unset hj).mpr hread⟩
  · have hname : g.name ≠ f.name := mt Field.name_inj hg
    rw [Json.occurrences_insert, if_neg hname.symm, Json.entry?_insert_of_ne _ _ _ hname]
    exact ⟨hle, hread⟩

end Inserted

/-! ## 3. Texts -/

/-- **The second row leaves the field out**: the first has no member for it, or this one more. -/
def LeftOut (f : Field) (ms ms' : List Member) : Prop :=
  (ms' = ms ∧ ∀ m ∈ ms, m.name ≠ some f.name) ∨
    ∃ m : Member, m.name = some f.name ∧ m.InsertedIn ms' ms

/-- **The extension that a text is read as, when its members change.** -/
structure ReadByName (d : ObjectText) (x : Extension) : Prop where
  /-- Each member has a name. -/
  named : ∀ m ∈ d.members, m.name ≠ none
  /-- One that is no field may come anywhere, whatever its value. -/
  unknown : ∀ (d' : ObjectText) (m : Member) (k : String), m.InsertedIn d.members d'.members →
    m.name = some k → k ∉ fieldNames → read? d'.text = some x
  /-- One without a name may not. -/
  nameless : ∀ (d' : ObjectText) (m : Member), m.InsertedIn d.members d'.members →
    m.name = none → read? d'.text = none
  /-- The members may come in any order. -/
  reordered : ∀ d' : ObjectText, d.members.Perm d'.members → read? d'.text = some x
  /-- A field that need not be there may be left out. -/
  leftOut : ∀ (f : Field) (d' : ObjectText), f.IsOptional ∨ f.IsMap →
    LeftOut f d.members d'.members → read? d'.text = some (x.without f)
  /-- It may as well be there as `null`, or for a map as the empty object. -/
  unset : ∀ (f : Field) (d' d'' : ObjectText) (m : Member), LeftOut f d.members d'.members →
    m.InsertedIn d'.members d''.members → m.name = some f.name → f.Unset m.element.value →
    read? d''.text = some (x.without f)

section Texts

variable {d d' : ObjectText} {x : Extension}

theorem read?_of_named (h : ∀ m ∈ d.members, m.name ≠ none) :
    read? d.text = ofJson? (.object (contents d.members)) := by
  rw [read?, ObjectText.read?_of_named h, Option.bind_some]

/-- Nothing but an object or an array is read as an extension. -/
theorem read?_of_nameless {m : Member} (hm : m ∈ d.members) (h : m.name = none) :
    read? d.text = none := by
  rw [read?, ObjectText.read?_of_nameless hm h]
  rfl

theorem named_of_read? (h : read? d.text = some x) : ∀ m ∈ d.members, m.name ≠ none := by
  intro m hm hnone
  rw [read?_of_nameless hm hnone] at h
  cases h

theorem occurrences_contents_eq_zero {name : String} {ms : List Member}
    (h : ∀ m ∈ ms, m.name ≠ some name) : occurrences name (contents ms) = 0 := by
  rw [Json.occurrences_eq_count, List.count_eq_zero]
  intro hname
  obtain ⟨⟨k, j⟩, hmem, rfl⟩ := List.mem_map.mp hname
  obtain ⟨m, hm, hentry⟩ := List.mem_filterMap.mp hmem
  obtain ⟨k', hk', hpair⟩ := Option.map_eq_some_iff.mp hentry
  cases hpair
  exact h m hm hk'

/-- **Without the field** the rest is read as before, and the field is there no more. -/
theorem read?_leftOut {f : Field} (hf : f.IsOptional ∨ f.IsMap)
    (hout : LeftOut f d.members d'.members) (h : read? d.text = some x) :
    (∀ m ∈ d'.members, m.name ≠ none) ∧ occurrences f.name (contents d'.members) = 0 ∧
      read? d'.text = some (x.without f) := by
  have hnamed := named_of_read? h
  rw [read?_of_named hnamed] at h
  rcases hout with ⟨hsame, habsent⟩ | ⟨m, hname, hinserted⟩
  · have hnone := occurrences_contents_eq_zero habsent
    have hread := (ofJson?_object_eq_some_iff.mp h f).2
    rw [Json.entry?_of_occurrences hnone] at hread
    rw [read?_of_named (hsame ▸ hnamed), hsame, Field.without_of_reads_none hf hread]
    exact ⟨hnamed, hnone, h⟩
  · have hnamed' := (hinserted.forall_mem.mp hnamed).2
    obtain ⟨before, after, hbefore, hafter⟩ := hinserted.contents hname
    rw [hafter] at h
    rw [read?_of_named hnamed', hbefore]
    exact ⟨hnamed', ofJson?_leave_out hf h⟩

/-- **What is read is read by the names.** -/
theorem readByName (h : read? d.text = some x) : ReadByName d x := by
  have hnamed := named_of_read? h
  have hread := h
  rw [read?_of_named hnamed] at hread
  refine ⟨hnamed, ?unknown, ?nameless, ?reordered, ?leftOut, ?unset⟩
  case unknown =>
    intro d' m k hinserted hname hk
    have hnamed' := hinserted.forall_mem.mpr ⟨by rw [hname]; exact Option.some_ne_none k, hnamed⟩
    obtain ⟨before, after, hbefore, hafter⟩ := hinserted.contents hname
    rw [hbefore] at hread
    rw [read?_of_named hnamed', hafter, ofJson?_insert_unknown hk, hread]
  case nameless =>
    intro d' m hinserted hname
    exact read?_of_nameless hinserted.mem hname
  case reordered =>
    intro d' hperm
    have hnamed' : ∀ m ∈ d'.members, m.name ≠ none :=
      fun m hm => hnamed m (hperm.mem_iff.mpr hm)
    have hcontents : (contents d.members).Perm (contents d'.members) := hperm.filterMap _
    rw [read?_of_named hnamed', ← ofJson?_perm hcontents, hread]
  case leftOut =>
    intro f d' hf hout
    exact (read?_leftOut hf hout h).2.2
  case unset =>
    intro f d' d'' m hout hinserted hname hunset
    obtain ⟨hnamed', hnone, hread'⟩ := read?_leftOut hunset.mayBeMissing hout h
    have hnamed'' := hinserted.forall_mem.mpr
      ⟨by rw [hname]; exact Option.some_ne_none f.name, hnamed'⟩
    obtain ⟨before, after, hbefore, hafter⟩ := hinserted.contents hname
    rw [hbefore] at hnone
    rw [read?_of_named hnamed', hbefore] at hread'
    rw [read?_of_named hnamed'', hafter]
    exact ofJson?_insert_unset hunset hnone hread'

end Texts

end Extension

/-- **Extensions are read by the names of their members.** A text that is read as an object and
    accepted as an extension consists of members, and into whatever members it is taken apart: any
    other with a name that is no field's may come anywhere among them, with any value, while one
    whose name is no string spoils the text; the members may come in any order; and a field that
    need not be there is the same left out, as `null` and, for a map, as the empty object. -/
theorem extensions_are_read_by_name {text : String} {x : Extension} {ms : List (String × Json)}
    (hobject : Json.read? text = some (.object ms)) (h : Extension.read? text = some x) :
    (∃ d : ObjectText, d.text = text) ∧
      ∀ d : ObjectText, d.text = text → Extension.ReadByName d x := by
  refine ⟨Json.exists_objectText hobject, ?_⟩
  rintro d rfl
  exact Extension.readByName h

/-- A document of the extension manager: a member with a map below it comes first, whose fields are
    not those of the extension. -/
theorem extensions_are_read_by_name_above_version :
    let version : Member := ⟨[], "version".toList, [],
      ⟨[' '], "\"1.11.2\"".toList, [], .string "1.11.2"⟩, some "version"⟩
    let settings : Member := ⟨[], "configurationSettings".toList, [],
      ⟨[], "\x7b \x7d".toList, [], .object []⟩, some "configurationSettings"⟩
    let state : Member := ⟨['\n'], "st\\u0061te".toList, [' '],
      ⟨[], ('\x7b' :: (Json.commas [settings.written] ++ ['\x7d'])), [],
        .object [("configurationSettings", .object [])]⟩, some "state"⟩
    let text (ms : List Member) : String :=
      String.ofList ('\x7b' :: (Json.commas (ms.map Member.written) ++ ['\x7d']))
    let installed : Extension := { version := some "1.11.2" }
    text [state, version] = "\x7b\n\"st\\u0061te\" :\x7b\"configurationSettings\":\x7b \x7d\x7d," ++
        "\"version\": \"1.11.2\"\x7d" ∧
      Extension.read? (text [version]) = some installed ∧
      Extension.read? (text [state, version]) = some installed ∧
      Extension.read? (text [version, settings]) = some installed ∧
      Extension.read? (text []) = some {} := by
  intro version settings state text installed
  have hversion : version.Spelled := by
    refine ⟨⟨blank_nil, .of_read ?_, blank_nil, by decide, blank_nil⟩, ?_⟩
    · decide +kernel
    have hliteral : LiteralText "1.11.2".toList (some "1.11.2") := .of_read (by decide +kernel)
    exact .string hliteral
  have hsettings : settings.Spelled := by
    refine ⟨⟨blank_nil, .of_read (by decide +kernel), blank_nil, blank_nil, blank_nil⟩, ?_⟩
    exact .emptyObject (by decide : Json.Blank [' '])
  have hstate : state.Spelled := by
    refine ⟨⟨by decide, .of_read (by decide +kernel), by decide, blank_nil, blank_nil⟩, ?_⟩
    exact .object (List.cons_ne_nil settings [])
      (List.forall_mem_singleton.mpr hsettings.framed)
      (List.forall_mem_singleton.mpr hsettings.text)
  let document (ms : List Member) (h : ∀ m ∈ ms, m.Spelled) : ObjectText :=
    ⟨[], ms, [], [], blank_nil, h, blank_nil, blank_nil⟩
  let d := document [version] (List.forall_mem_singleton.mpr hversion)
  let d₁ := document [state, version]
    (List.forall_mem_cons.mpr ⟨hstate, List.forall_mem_singleton.mpr hversion⟩)
  let d₂ := document [version, settings]
    (List.forall_mem_cons.mpr ⟨hversion, List.forall_mem_singleton.mpr hsettings⟩)
  let d₃ := document [] nofun
  have htext : d.text = "\x7b\"version\": \"1.11.2\"\x7d" := rfl
  have hread : Extension.read? d.text = some installed := by
    rw [htext]
    decide +kernel
  obtain ⟨ms, hobject⟩ : ∃ ms, Json.read? d.text = some (.object ms) :=
    ⟨_, ObjectText.read?_of_named (List.forall_mem_singleton.mpr (Option.some_ne_none _))⟩
  have hnames := (extensions_are_read_by_name hobject hread).2 d rfl
  have hsettingsOut : Extension.LeftOut .settings d.members d.members :=
    .inl ⟨rfl, List.forall_mem_singleton.mpr (by decide)⟩
  refine ⟨by decide +kernel, hread, ?_, ?_, ?_⟩
  · exact hnames.unknown d₁ state "state" ⟨[], [version], rfl, rfl⟩ rfl (by decide)
  · exact hnames.unset .settings d d₂ settings hsettingsOut ⟨[version], [], rfl, rfl⟩ rfl
      (.empty (.inl rfl))
  · exact hnames.leftOut .version d₃ (.inl (.inr (.inr (.inl rfl))))
      (.inr ⟨version, rfl, [], [], rfl, rfl⟩)

/-- Half of a surrogate pair is the name of no field, but not of a member either. -/
theorem name_without_string_is_refused :
    ∃ (d d' : ObjectText) (m : Member), d.text = "\x7b\x7d" ∧
      d'.text = "\x7b\"\\ud800\":null\x7d" ∧ m.InsertedIn d.members d'.members ∧
      (∀ name ∈ Extension.fieldNames, m.name ≠ some name) ∧
      Extension.read? d.text = some {} ∧ Extension.read? d'.text = none := by
  let m : Member := ⟨[], "\\ud800".toList, [], ⟨[], "null".toList, [], .null⟩, none⟩
  have hm : m.Spelled := by
    refine ⟨⟨blank_nil, .of_read ?_, blank_nil, blank_nil, blank_nil⟩, .null⟩
    decide +kernel
  let d : ObjectText := ⟨[], [], [], [], blank_nil, nofun, blank_nil, blank_nil⟩
  let d' : ObjectText := ⟨[], [m], [], [], blank_nil, List.forall_mem_singleton.mpr hm,
    blank_nil, blank_nil⟩
  have hread : Extension.read? d.text = some {} := by
    rw [show d.text = "\x7b\x7d" from rfl]
    decide +kernel
  refine ⟨d, d', m, rfl, rfl, ⟨[], [], rfl, rfl⟩, fun name _ => nofun, hread, ?_⟩
  exact Extension.read?_of_nameless (.head []) rfl

end DaprHosting
