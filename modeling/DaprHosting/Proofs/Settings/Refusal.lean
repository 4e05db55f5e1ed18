import DaprHosting.Proofs.Settings.Reading

/-!
# Which maps of settings are refused

A map of settings is refused for a flag that is neither true nor false, and for nothing else: for
the first such flag in its order, by `outcome_ofMap`.
-/

namespace DaprHosting.Settings

/-- The entry of a flag that is neither true nor false, whatever the case of the letters. -/
def unreadableFlag (e : String × String) : Bool :=
  e.1 ∈ flagKeys && Text.lowerAscii e.2 ≠ flagText true && Text.lowerAscii e.2 ≠ flagText false

/-! ## 1. One entry -/

theorem flag_of_unreadable {key value : String} (h : unreadableFlag (key, value) = true) :
    flag key value = .error ⟨key, value⟩ := by
  simp only [unreadableFlag, Bool.and_eq_true, decide_eq_true_eq] at h
  obtain ⟨⟨-, ht⟩, hf⟩ := h
  unfold flag
  cases hflag : flag? value with
  | none => rfl
  | some b =>
    have hok : flag key value = .ok b := by simp only [flag, hflag]
    cases b
    · exact absurd (flag_eq_ok_iff.mp hok) hf
    · exact absurd (flag_eq_ok_iff.mp hok) ht

theorem flag_of_readable {key value : String} (hkey : key ∈ flagKeys)
    (h : unreadableFlag (key, value) = false) : ∃ b, flag key value = .ok b := by
  by_cases ht : Text.lowerAscii value = flagText true
  · exact ⟨true, flag_eq_ok_iff.mpr ht⟩
  by_cases hf : Text.lowerAscii value = flagText false
  · exact ⟨false, flag_eq_ok_iff.mpr hf⟩
  simp [unreadableFlag, hkey, ht, hf] at h

/-- An entry under a key that is no flag is always put. -/
theorem put_of_notMem (s : Settings) {key : String} (value : String) (h : key ∉ flagKeys) :
    ∃ s', s.put key value = .ok s' := by
  simp only [flagKeys, List.mem_cons, List.not_mem_nil, or_false, not_or] at h
  obtain ⟨hha, hskip, hhook⟩ := h
  simp only [put, if_neg hha, if_neg hskip, if_neg hhook]
  split
  · exact ⟨_, rfl⟩
  split
  · exact ⟨_, rfl⟩
  split
  · exact ⟨_, rfl⟩
  · exact ⟨_, rfl⟩

/-- An entry under the key of a flag is put as the flag that it is. -/
theorem put_of_mem (s : Settings) {key : String} (value : String) (h : key ∈ flagKeys) :
    ∃ set : Bool → Settings, s.put key value = (flag key value).map set := by
  simp only [flagKeys, List.mem_cons, List.not_mem_nil, or_false] at h
  rcases h with rfl | rfl | rfl
  · exact ⟨fun b => { s with haEnabled := some b }, rfl⟩
  · exact ⟨fun b => { s with skipExistingCheck := some b }, rfl⟩
  · exact ⟨fun b => { s with applyCrdsHook := some b }, rfl⟩

theorem put_of_unreadable (s : Settings) {key value : String}
    (h : unreadableFlag (key, value) = true) : s.put key value = .error ⟨key, value⟩ := by
  have hkey : key ∈ flagKeys := by
    simp only [unreadableFlag, Bool.and_eq_true, decide_eq_true_eq] at h
    exact h.1.1
  obtain ⟨set, hput⟩ := s.put_of_mem value hkey
  rw [hput, flag_of_unreadable h]
  rfl

theorem put_of_readable (s : Settings) {key value : String}
    (h : unreadableFlag (key, value) = false) : ∃ s', s.put key value = .ok s' := by
  by_cases hkey : key ∈ flagKeys
  · obtain ⟨set, hput⟩ := s.put_of_mem value hkey
    obtain ⟨b, hb⟩ := flag_of_readable hkey h
    exact ⟨set b, by rw [hput, hb]; rfl⟩
  · exact s.put_of_notMem value hkey

/-! ## 2. All entries -/

theorem outcome_putAll (es : List (String × String)) (s : Settings) :
    match es.find? unreadableFlag with
    | some e => s.putAll es = .error ⟨e.1, e.2⟩
    | none => ∃ s', s.putAll es = .ok s' := by
  induction es generalizing s with
  | nil => exact ⟨s, rfl⟩
  | cons e es ih =>
    obtain ⟨key, value⟩ := e
    rw [putAll]
    cases h : unreadableFlag (key, value) with
    | true =>
      rw [List.find?_cons_of_pos h, s.put_of_unreadable h]
    | false =>
      obtain ⟨s₁, hput⟩ := s.put_of_readable h
      rw [List.find?_cons_of_neg (Bool.eq_false_iff.mp h), hput]
      exact ih s₁

/-- **The first unreadable flag of a map is the fault**, and without one the map is read. -/
theorem outcome_ofMap (m : OrderedMap String) :
    match m.entries.find? unreadableFlag with
    | some e => ofMap m = .error ⟨e.1, e.2⟩
    | none => ∃ s, ofMap m = .ok s :=
  outcome_putAll m.entries {}

end DaprHosting.Settings
