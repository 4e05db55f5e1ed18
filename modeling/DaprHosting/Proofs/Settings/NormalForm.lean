import DaprHosting.Proofs.Json.Written
import DaprHosting.Proofs.Settings.Refusal
import DaprHosting.Settings.Document

/-!
# The normal form of a map of settings

Reading a map of settings and writing it again gives its normal form: the same names with the same
values, the flags in lower case, and what no decision is made on in its order (`NormalForm`). What
was written is read as the settings that it was written for, from the map, from the document and
from the text of the document, as long as no known key was carried through. So a normal form is its
own normal form: `settings_have_normal_form`.
-/

namespace DaprHosting.Settings

/-! ## 1. What settings are known by -/

theorem flagText_injective : Function.Injective flagText := by
  have h : ∀ b b' : Bool, flagText b = flagText b' → b = b' := by decide
  exact fun b b' => h b b'

/-- **Settings are known by their values** under the known keys, and by what they carry. -/
theorem ext_value? {s s' : Settings} (hvalue : ∀ key ∈ knownKeys, s.value? key = s'.value? key)
    (hextra : s.extra = s'.extra) : s = s' := by
  have hflag : ∀ {b b' : Option Bool}, b.map flagText = b'.map flagText → b = b' :=
    fun h => Option.map_injective flagText_injective h
  have hcluster : s.clusterType = s'.clusterType := hvalue clusterTypeKey (by decide)
  have hname : s.existingReleaseName = s'.existingReleaseName :=
    hvalue existingReleaseNameKey (by decide)
  have hspace : s.existingReleaseNamespace = s'.existingReleaseNamespace :=
    hvalue existingReleaseNamespaceKey (by decide)
  have hha : s.haEnabled = s'.haEnabled := hflag (hvalue haEnabledKey (by decide))
  have hskip : s.skipExistingCheck = s'.skipExistingCheck :=
    hflag (hvalue skipExistingCheckKey (by decide))
  have hhook : s.applyCrdsHook = s'.applyCrdsHook := hflag (hvalue applyCrdsHookKey (by decide))
  cases s
  cases s'
  simp_all

/-- The value of a flag is the text of a truth value. -/
theorem value?_of_mem_flagKeys (s : Settings) {key : String} (h : key ∈ flagKeys) :
    ∃ b : Option Bool, s.value? key = b.map flagText := by
  simp only [flagKeys, List.mem_cons, List.not_mem_nil, or_false] at h
  rcases h with rfl | rfl | rfl
  · exact ⟨s.haEnabled, rfl⟩
  · exact ⟨s.skipExistingCheck, rfl⟩
  · exact ⟨s.applyCrdsHook, rfl⟩

theorem lowerAscii_flagText (b : Bool) : Text.lowerAscii (flagText b) = flagText b := by
  cases b <;> decide

/-- Values are said in the spelling in which they are kept. -/
theorem canonical_value? (s : Settings) (key : String) :
    (s.value? key).map (canonical key) = s.value? key := by
  by_cases hkey : key ∈ flagKeys
  · obtain ⟨b, hb⟩ := s.value?_of_mem_flagKeys hkey
    rw [hb, Option.map_map]
    refine Option.map_congr fun b _ => ?_
    rw [Function.comp_apply, canonical, if_pos hkey, lowerAscii_flagText]
  · rw [canonical_of_notMem hkey, Option.map_id, id]

/-! ## 2. What is written is read -/

section Written

variable {s : Settings} (h : s.Apart)

include h

/-- Every flag that is written can be read. -/
theorem readable_toMap : s.toMap.entries.find? unreadableFlag = none := by
  refine List.find?_eq_none.mpr fun e he hbad => ?_
  have hvalue : s.value? e.1 = some e.2 := (h.get?_toMap e.1).symm.trans (OrderedMap.get?_of_mem he)
  simp only [unreadableFlag, Bool.and_eq_true, decide_eq_true_eq] at hbad
  obtain ⟨⟨hkey, htrue⟩, hfalse⟩ := hbad
  obtain ⟨b, hb⟩ := s.value?_of_mem_flagKeys hkey
  rw [hvalue, eq_comm, Option.map_eq_some_iff] at hb
  obtain ⟨b, -, hb⟩ := hb
  rw [← hb, lowerAscii_flagText] at htrue hfalse
  cases b
  · exact hfalse rfl
  · exact htrue rfl

/-- **The map of settings is read as these settings.** -/
theorem ofMap_toMap : ofMap s.toMap = .ok s := by
  have hout := outcome_ofMap s.toMap
  rw [readable_toMap h] at hout
  obtain ⟨s', hs'⟩ := hout
  have hread := read_of_ok hs'
  have hvalue : ∀ key, s'.value? key = s.value? key := by
    intro key
    rw [hread.value, h.get?_toMap, canonical_value?]
  have hextra : s'.extra = s.extra :=
    OrderedMap.ext_entries (hread.extra.trans h.entries_toMap_unknown)
  rw [hs', ext_value? (fun key _ => hvalue key) hextra]

/-- **So is their document.** -/
theorem ofJson?_toJson : ofJson? s.toJson = some s := by
  rw [ofJson?, toJson, Json.stringMap?_ofStrings, Option.bind_some, ofMap_toMap h]
  rfl

/-- **So is its text.** -/
theorem ofJson?_read? : (Json.read? s.toJson.compact).bind ofJson? = some s := by
  have htext : s.toJson.Textual := .ofStrings s.toMap.entries
  rw [Json.read?_compact htext.integral, Option.bind_some, ofJson?_toJson h]

end Written

/-! ## 3. Normal forms -/

/-- **`n` is the normal form of `m`.** -/
structure NormalForm (m n : OrderedMap String) : Prop where
  /-- The names are the same. -/
  names : n.names.Perm m.names
  /-- Under a name that is no flag stands the same value. -/
  value : ∀ key ∉ flagKeys, n.get? key = m.get? key
  /-- A flag is `true` or `false`, as it was but for the case of the letters. -/
  flag : ∀ key ∈ flagKeys, ∀ v, m.get? key = some v →
    ∃ b, n.get? key = some (flagText b) ∧ Text.lowerAscii v = flagText b
  /-- What no decision is made on is the same, in the same order. -/
  unknown : n.entries.filter unknown = m.entries.filter unknown

/-- A map that is read is written in its normal form. -/
theorem Read.normalForm {m : OrderedMap String} {s : Settings} (h : Read m s) :
    NormalForm m s.toMap := by
  have hget : ∀ key, s.toMap.get? key = (m.get? key).map (canonical key) := fun key =>
    (h.apart.get?_toMap key).trans (h.value key)
  refine ⟨?_, ?_, ?_, ?_⟩
  · refine (List.perm_ext_iff_of_nodup s.toMap.nodup m.nodup).mpr fun key => ?_
    have hnames : key ∉ s.toMap.names ↔ key ∉ m.names := by
      rw [← OrderedMap.get?_eq_none_iff, ← OrderedMap.get?_eq_none_iff, hget,
        Option.map_eq_none_iff]
    exact Decidable.not_iff_not.mp hnames
  · intro key hkey
    rw [hget, canonical_of_notMem hkey, Option.map_id, id]
  · intro key hkey v hv
    obtain ⟨b, hb⟩ := s.value?_of_mem_flagKeys hkey
    rw [h.value, hv, Option.map_some, canonical, if_pos hkey] at hb
    obtain ⟨b, -, hb⟩ := Option.map_eq_some_iff.mp hb.symm
    exact ⟨b, by rw [hget, hv, Option.map_some, canonical, if_pos hkey, hb], hb.symm⟩
  · rw [h.apart.entries_toMap_unknown, h.extra]

/-- **A map is refused for its first flag that is neither true nor false**, and for nothing else. -/
theorem ofMap_eq_error_iff {m : OrderedMap String} {f : Fault} :
    ofMap m = .error f ↔ m.entries.find? unreadableFlag = some (f.key, f.value) := by
  have hout := outcome_ofMap m
  cases hfind : m.entries.find? unreadableFlag with
  | none =>
    rw [hfind] at hout
    obtain ⟨s, hs⟩ := hout
    simp [hs]
  | some e =>
    rw [hfind] at hout
    rw [hout]
    constructor
    · rintro ⟨⟩
      rfl
    · rintro ⟨⟩
      rfl

/-- **Settings have a normal form.** A map that is accepted is written again in its normal form,
    with no known key carried through, and this is read as the same settings; settings that carry no
    known key through are read as they were written, from their map, their document and its text;
    and a map is refused exactly for a flag that is neither true nor false, the first in its
    order. -/
theorem settings_have_normal_form :
    (∀ (m : OrderedMap String) (s : Settings), ofMap m = .ok s →
      s.Apart ∧ NormalForm m s.toMap ∧ ofMap s.toMap = .ok s) ∧
    (∀ s : Settings, s.Apart →
      ofMap s.toMap = .ok s ∧ ofJson? s.toJson = some s ∧
        (Json.read? s.toJson.compact).bind ofJson? = some s) ∧
    ∀ (m : OrderedMap String) (f : Fault),
      ofMap m = .error f ↔ m.entries.find? unreadableFlag = some (f.key, f.value) := by
  refine ⟨fun m s h => ?_, fun s h => ?_, fun m f => ofMap_eq_error_iff⟩
  · have hread := read_of_ok h
    exact ⟨hread.apart, hread.normalForm, ofMap_toMap hread.apart⟩
  · exact ⟨ofMap_toMap h, ofJson?_toJson h, ofJson?_read? h⟩

/-- A flag in capitals in front of a known key and a key of somebody else: the known key comes
    first, and the flag is written in lower case. -/
theorem settings_have_normal_form_flag_in_capitals :
    let m : OrderedMap String :=
      ⟨[("hooks.applyCrds", "TRUE"), ("colour", "Red"), ("global.clusterType", "lone")], by decide⟩
    let s : Settings :=
      { clusterType := some "lone", applyCrdsHook := some true
        extra := ⟨[("colour", "Red")], by decide⟩ }
    s.toMap.entries =
        [("global.clusterType", "lone"), ("hooks.applyCrds", "true"), ("colour", "Red")] ∧
      (s.Apart ∧ NormalForm m s.toMap ∧ ofMap s.toMap = .ok s) ∧
      ofMap s.toMap = .ok s ∧ ofJson? s.toJson = some s ∧
        (Json.read? s.toJson.compact).bind ofJson? = some s := by
  intro m s
  have hread : ofMap m = .ok s := rfl
  have h := settings_have_normal_form.1 m s hread
  exact ⟨by decide, h, settings_have_normal_form.2.1 s h.1⟩

end DaprHosting.Settings
