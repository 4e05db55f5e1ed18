import DaprHosting.OrderedMap

/-!
# The entries of an ordered map

A map that is made of entries with distinct names holds exactly those, in the order in which they
came: `entries_ofList`. What a look-up finds among entries is told by where they come from.
-/

namespace DaprHosting

variable {α : Type}

/-! ## 1. Look-ups among entries -/

theorem entry?_append (name : String) (es es' : List (String × α)) :
    entry? name (es ++ es') = ( entry? name es).or ( entry? name es') := by
  induction es with
  | nil => rfl
  | cons e es ih =>
    obtain ⟨k, v⟩ := e
    simp only [List.cons_append, entry?, ih]
    split <;> rfl

theorem entry?_eq_none_iff {name : String} {es : List (String × α)} :
    entry? name es = none ↔ name ∉ es.map Prod.fst := by
  induction es with
  | nil => simp [ entry?]
  | cons e es ih =>
    obtain ⟨k, v⟩ := e
    by_cases hk : k = name
    · simp [hk, entry?]
    · have hk' : ¬ name = k := fun e => hk e.symm
      simp [hk, hk', ih, entry?]

/-- Under distinct names every entry is found. -/
theorem entry?_of_mem {es : List (String × α)} (hn : (es.map Prod.fst).Nodup) {e : String × α}
    (h : e ∈ es) : entry? e.1 es = some e.2 := by
  induction es with
  | nil => cases h
  | cons e' es ih =>
    obtain ⟨hnew, hn⟩ := List.nodup_cons.mp hn
    rcases List.mem_cons.mp h with rfl | h
    · exact if_pos rfl
    · have hne : e'.1 ≠ e.1 := fun he => hnew (he ▸ List.mem_map_of_mem h)
      rw [ entry?, if_neg hne]
      exact ih hn h

/-- A name that is new comes last. -/
theorem putEntry_of_notMem {name : String} (value : α) {es : List (String × α)}
    (h : name ∉ es.map Prod.fst) : putEntry name value es = es ++ [(name, value)] := by
  induction es with
  | nil => rfl
  | cons e es ih =>
    obtain ⟨k, v⟩ := e
    rw [List.map_cons, List.mem_cons, not_or] at h
    rw [putEntry, if_neg fun e => h.1 e.symm, ih h.2]
    rfl

namespace OrderedMap

/-! ## 2. Maps of entries -/

theorem get?_eq_none_iff {m : OrderedMap α} {name : String} :
    m.get? name = none ↔ name ∉ m.names :=
  entry?_eq_none_iff

theorem get?_of_mem {m : OrderedMap α} {e : String × α} (h : e ∈ m.entries) :
    m.get? e.1 = some e.2 :=
  entry?_of_mem m.nodup h

theorem entries_insert_of_notMem {m : OrderedMap α} {name : String} (value : α)
    (h : name ∉ m.names) : (m.insert name value).entries = m.entries ++ [(name, value)] :=
  putEntry_of_notMem value h

/-- Entries under new names are added as they are. -/
theorem entries_insertAll {es : List (String × α)} :
    ∀ {m : OrderedMap α}, (m.names ++ es.map Prod.fst).Nodup →
      (m.insertAll es).entries = m.entries ++ es := by
  induction es with
  | nil => exact fun _ => (List.append_nil _).symm
  | cons e es ih =>
    intro m h
    obtain ⟨k, v⟩ := e
    have hk : k ∉ m.names := by
      obtain ⟨-, -, hd⟩ := List.nodup_append.mp h
      exact fun hm => hd k hm k (List.mem_cons_self ..) rfl
    have hnext : ((m.insert k v).names ++ es.map Prod.fst).Nodup := by
      rw [names_insert, if_neg hk, List.append_assoc]
      exact h
    rw [insertAll, List.foldl_cons, ← insertAll, ih hnext, entries_insert_of_notMem v hk,
      List.append_assoc]
    rfl

theorem isEmpty_of_get? {m : OrderedMap α} {name : String} {value : α}
    (h : m.get? name = some value) : m.isEmpty = false := by
  obtain ⟨_ | ⟨e, es⟩, hn⟩ := m
  · cases h
  · rfl

theorem isEmpty_insertAll (es : List (String × α)) :
    ∀ m : OrderedMap α, (m.insertAll es).isEmpty = (m.isEmpty && es.isEmpty) := by
  induction es with
  | nil => exact fun m => (Bool.and_true _).symm
  | cons e es ih =>
    intro m
    have hset : (m.insert e.1 e.2).get? e.1 = some e.2 := by
      rw [get?_insert, if_pos rfl]
    rw [insertAll, List.foldl_cons, ← insertAll, ih, isEmpty_of_get? hset]
    simp

/-- Only no entries make the empty map. -/
theorem isEmpty_ofList (es : List (String × α)) : (ofList es).isEmpty = es.isEmpty :=
  isEmpty_insertAll es empty

/-- **Entries with distinct names make the map that holds them**, in their order. -/
theorem entries_ofList {es : List (String × α)} (h : (es.map Prod.fst).Nodup) :
    (ofList es).entries = es :=
  entries_insertAll h

end OrderedMap

end DaprHosting
