import DaprHosting.Proofs.Settings.Values

/-!
# What is read from a map of settings

Reading puts one entry after the other into its field, or carries it through. `Settings.Put` says
what one entry does, and `Settings.Read` what all the entries of a map do: under each key the
settings say what the map says, a flag in lower case, and the entries under unknown keys are carried
in their order. No known key is carried through, so what is read is written again without loss.
-/

namespace DaprHosting

/-! ## 1. Flags -/

theorem Text.sameIgnoringCase_iff {a b : String} :
    Text.sameIgnoringCase a b = true ↔ Text.lowerAscii a = Text.lowerAscii b := by
  unfold Text.sameIgnoringCase Text.lowerAscii
  rw [beq_iff_eq, String.ofList_inj]

namespace Settings

/-- The spelling in which a value is kept: flags are kept in lower case. -/
def canonical (key value : String) : String :=
  if key ∈ flagKeys then Text.lowerAscii value else value

theorem canonical_of_notMem {key : String} (h : key ∉ flagKeys) : canonical key = id :=
  funext fun _ => if_neg h

/-- **A text is a flag exactly when it is its text** but for the case of the letters. -/
theorem flag_eq_ok_iff {key value : String} {b : Bool} :
    flag key value = .ok b ↔ Text.lowerAscii value = flagText b := by
  have htrue : Text.sameIgnoringCase value "true" = true ↔ Text.lowerAscii value = "true" :=
    Text.sameIgnoringCase_iff
  have hfalse : Text.sameIgnoringCase value "false" = true ↔ Text.lowerAscii value = "false" :=
    Text.sameIgnoringCase_iff
  unfold flag flag?
  by_cases ht : Text.lowerAscii value = "true"
  · rw [if_pos (htrue.mpr ht), ht]
    cases b <;> simp [flagText]
  · rw [if_neg (mt htrue.mp ht)]
    by_cases hf : Text.lowerAscii value = "false"
    · rw [if_pos (hfalse.mpr hf), hf]
      cases b <;> simp [flagText]
    · rw [if_neg (mt hfalse.mp hf)]
      cases b <;> simp [flagText, ht, hf]

/-! ## 2. One entry -/

/-- **What one entry does**: its value stands under its key, and only what no decision is made on is
    carried through. -/
structure Put (s : Settings) (key v : String) (s' : Settings) : Prop where
  value : ∀ other,
    s'.value? other = if other = key then some (canonical key v) else s.value? other
  extra : s'.extra = if key ∈ knownKeys then s.extra else s.extra.insert key v

/-- A flag is put in its text. -/
theorem flag_map_eq_ok {key value : String} {set : Bool → Settings} {s' : Settings}
    (hkey : key ∈ flagKeys) (h : (flag key value).map set = .ok s') :
    ∃ b, some (canonical key value) = (some b).map flagText ∧ s' = set b := by
  cases hb : flag key value with
  | error f =>
    rw [hb] at h
    cases h
  | ok b =>
    rw [hb] at h
    cases h
    exact ⟨b, by rw [canonical, if_pos hkey, flag_eq_ok_iff.mp hb, Option.map_some], rfl⟩

theorem put_of_ok {s s' : Settings} {key value : String} (h : s.put key value = .ok s') :
    Put s key value s' := by
  unfold put at h
  split at h
  · rename_i hk
    subst hk
    cases h
    exact ⟨fun other => value?_with_clusterType s other _, rfl⟩
  split at h
  · rename_i hk
    subst hk
    obtain ⟨b, hb, rfl⟩ := flag_map_eq_ok (by decide) h
    exact ⟨fun other => hb ▸ value?_with_haEnabled s other _, rfl⟩
  split at h
  · rename_i hk
    subst hk
    obtain ⟨b, hb, rfl⟩ := flag_map_eq_ok (by decide) h
    exact ⟨fun other => hb ▸ value?_with_skipExistingCheck s other _, rfl⟩
  split at h
  · rename_i hk
    subst hk
    cases h
    exact ⟨fun other => value?_with_existingReleaseName s other _, rfl⟩
  split at h
  · rename_i hk
    subst hk
    cases h
    exact ⟨fun other => value?_with_existingReleaseNamespace s other _, rfl⟩
  split at h
  · rename_i hk
    subst hk
    obtain ⟨b, hb, rfl⟩ := flag_map_eq_ok (by decide) h
    exact ⟨fun other => hb ▸ value?_with_applyCrdsHook s other _, rfl⟩
  · cases h
    have hk : key ∉ knownKeys := by simp_all [knownKeys]
    have hc : canonical key = id :=
      canonical_of_notMem fun hf => hk ((by decide : flagKeys ⊆ knownKeys) hf)
    exact ⟨fun other => by rw [value?_with_extra s other value hk, hc, id], by rw [if_neg hk]⟩

/-! ## 3. All entries -/

/-- **What the entries of a map do**: the settings say under each key what the map says, and carry
    what no decision is made on in its order. -/
structure Read (m : OrderedMap String) (s : Settings) : Prop where
  value : ∀ key, s.value? key = (m.get? key).map (canonical key)
  extra : s.extra.entries = m.entries.filter unknown

theorem value?_of_putAll {es : List (String × String)} (hn : (es.map Prod.fst).Nodup)
    {s s' : Settings} (h : s.putAll es = .ok s') (key : String) :
    s'.value? key = (( entry? key es).map (canonical key)).or (s.value? key) := by
  induction es generalizing s with
  | nil =>
    cases h
    rfl
  | cons e es ih =>
    obtain ⟨k, v⟩ := e
    obtain ⟨hk, hn⟩ := List.nodup_cons.mp hn
    rw [putAll] at h
    split at h
    · rename_i s₁ hput
      rw [ih hn h, (put_of_ok hput).value]
      by_cases hkey : key = k
      · subst hkey
        have hlater : entry? key es = none := entry?_eq_none_iff.mpr hk
        simp [hlater, entry?]
      · have hkey' : ¬ k = key := fun e => hkey e.symm
        rw [if_neg hkey, entry?, if_neg hkey']
    · cases h

/-- Under new names the entries that no decision is made on are carried one behind the other. -/
theorem extra_of_putAll {es : List (String × String)} {s s' : Settings}
    (hn : (s.extra.names ++ es.map Prod.fst).Nodup) (h : s.putAll es = .ok s') :
    s'.extra.entries = s.extra.entries ++ es.filter unknown := by
  induction es generalizing s with
  | nil =>
    cases h
    exact (List.append_nil _).symm
  | cons e es ih =>
    obtain ⟨k, v⟩ := e
    rw [putAll] at h
    split at h
    · rename_i s₁ hput
      have hextra := (put_of_ok hput).extra
      by_cases hk : k ∈ knownKeys
      · rw [if_pos hk] at hextra
        have hn₁ : (s₁.extra.names ++ es.map Prod.fst).Nodup := by
          rw [hextra]
          exact hn.sublist ((List.sublist_cons_self ..).append_left _)
        rw [ih hn₁ h, hextra, List.filter_cons_of_neg (by simpa [unknown] using hk)]
      · rw [if_neg hk] at hextra
        have hnew : k ∉ s.extra.names := by
          obtain ⟨-, -, hd⟩ := List.nodup_append.mp hn
          exact fun hm => hd k hm k (List.mem_cons_self ..) rfl
        have hn₁ : (s₁.extra.names ++ es.map Prod.fst).Nodup := by
          rw [hextra, OrderedMap.names_insert, if_neg hnew, List.append_assoc]
          exact hn
        rw [ih hn₁ h, hextra, OrderedMap.entries_insert_of_notMem v hnew,
          List.filter_cons_of_pos (by simpa [unknown] using hk), List.append_assoc]
        rfl
    · cases h

/-- **What is read says what the map says.** -/
theorem read_of_ok {m : OrderedMap String} {s : Settings} (h : ofMap m = .ok s) : Read m s where
  value key := by
    rw [value?_of_putAll m.nodup h key]
    have hempty : ({} : Settings).value? key = none := by
      simp [value?, OrderedMap.get?, OrderedMap.empty, entry?]
    rw [hempty, Option.or_none]
    rfl
  extra := extra_of_putAll (s := {}) m.nodup h

namespace Read

variable {m : OrderedMap String} {s : Settings}

theorem apart (h : Read m s) : s.Apart := by
  intro key hkey
  rw [OrderedMap.names, h.extra] at hkey
  obtain ⟨e, he, rfl⟩ := List.mem_map.mp hkey
  simpa [unknown] using (List.mem_filter.mp he).2

end Read

/-- **Settings that may not be given at all**, and the map they were read from when they are. -/
inductive Given : Option (OrderedMap String) → Option Settings → Prop where
  | nothing : Given none none
  | read {m : OrderedMap String} {s : Settings} (h : ofMap m = .ok s) : Given (some m) (some s)

/-- Where none are given they say what the empty map says. -/
theorem Given.read_getD {m : Option (OrderedMap String)} {s : Option Settings} (h : Given m s) :
    Read (m.getD .empty) (s.getD {}) := by
  cases h with
  | nothing => exact read_of_ok rfl
  | read h => exact read_of_ok h

end Settings

end DaprHosting
