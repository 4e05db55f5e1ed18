import Mathlib.Data.List.Basic
import Mathlib.Data.List.Induction
import DaprHosting.Proofs.OrderedMap.Entries

/-!
# Entries with repeated names

A map that is made of any entries holds each name once, at the place where it first came and with
the value that it last had: `entries_ofList_eq`. `merged` says so without a map.
-/

namespace DaprHosting

variable {α : Type}

/-- Each name at the place of its first entry, with the value of its last. -/
def merged (es : List (String × α)) : List (String × α) :=
  (es.map Prod.fst).eraseDups.filterMap fun name =>
    ( entry? name es.reverse).map fun value => (name, value)

/-- Entries with distinct names are told by their names and what stands under them. -/
theorem eq_filterMap_of_nodup {es : List (String × α)} (h : (es.map Prod.fst).Nodup) :
    es = (es.map Prod.fst).filterMap fun name =>
      ( entry? name es).map fun value => (name, value) := by
  induction es with
  | nil => rfl
  | cons e es ih =>
    obtain ⟨k, v⟩ := e
    obtain ⟨hk, hn⟩ := List.nodup_cons.mp h
    have hrest : ∀ name ∈ es.map Prod.fst,
        ( entry? name ((k, v) :: es)).map (fun value => (name, value)) =
          ( entry? name es).map fun value => (name, value) := by
      intro name hname
      have hne : k ≠ name := fun e => hk (e ▸ hname)
      rw [ entry?, if_neg hne]
    have hhead : entry? k ((k, v) :: es) = some v := if_pos rfl
    rw [List.map_cons, List.filterMap_cons, hhead, List.filterMap_congr hrest, ← ih hn]
    rfl

namespace OrderedMap

theorem ofList_concat (es : List (String × α)) (e : String × α) :
    ofList (es ++ [e]) = (ofList es).insert e.1 e.2 := by
  rw [ofList, insertAll, List.foldl_append]
  rfl

theorem names_ofList (es : List (String × α)) :
    (ofList es).names = (es.map Prod.fst).eraseDups := by
  induction es using List.reverseRecOn with
  | nil => rfl
  | append_singleton es e ih =>
    rw [ofList_concat, names_insert, ih, List.map_append, List.eraseDups_append]
    by_cases h : e.1 ∈ es.map Prod.fst
    · have hall : [e.1].removeAll (es.map Prod.fst) = [] := by simpa [List.removeAll] using h
      rw [if_pos (List.mem_eraseDups.mpr h), List.map_singleton, hall]
      exact (List.append_nil _).symm
    · have hall : [e.1].removeAll (es.map Prod.fst) = [e.1] := by simpa [List.removeAll] using h
      rw [if_neg (mt List.mem_eraseDups.mp h), List.map_singleton, hall]
      rfl

theorem get?_ofList (es : List (String × α)) (name : String) :
    (ofList es).get? name = entry? name es.reverse := by
  induction es using List.reverseRecOn with
  | nil => rfl
  | append_singleton es e ih =>
    rw [ofList_concat, get?_insert, ih, List.reverse_append]
    by_cases h : name = e.1
    · rw [if_pos h]
      exact (if_pos h.symm).symm
    · rw [if_neg h]
      exact (if_neg fun e => h e.symm).symm

/-- What is put changes one entry, or is one more. -/
theorem mem_putEntry {name : String} {value : α} {es : List (String × α)} {e : String × α}
    (h : e ∈ putEntry name value es) : e = (name, value) ∨ e ∈ es := by
  induction es with
  | nil => exact .inl (List.mem_singleton.mp h)
  | cons e' es ih =>
    obtain ⟨k, v⟩ := e'
    rw [putEntry] at h
    split at h
    · rename_i hk
      subst hk
      exact (List.mem_cons.mp h).imp_right (List.mem_cons_of_mem _)
    · rcases List.mem_cons.mp h with rfl | h
      · exact .inr (.head _)
      · exact (ih h).imp_right (List.mem_cons_of_mem _)

/-- The map holds nothing but these entries. -/
theorem mem_of_mem_entries_ofList {es : List (String × α)} {e : String × α}
    (h : e ∈ (ofList es).entries) : e ∈ es := by
  induction es using List.reverseRecOn with
  | nil => cases h
  | append_singleton es e' ih =>
    rw [ofList_concat] at h
    rw [List.mem_append, List.mem_singleton]
    exact (mem_putEntry h).symm.imp_left ih

/-- Entries put under chosen names are put among those. -/
theorem filter_putEntry (p : String → Bool) (name : String) (value : α) (es : List (String × α)) :
    (putEntry name value es).filter (fun e => p e.1) =
      if p name then putEntry name value (es.filter fun e => p e.1)
      else es.filter fun e => p e.1 := by
  induction es with
  | nil => cases hp : p name <;> simp [putEntry, hp]
  | cons e es ih =>
    obtain ⟨k, v⟩ := e
    by_cases hk : k = name
    · subst hk
      cases hp : p k <;> simp [putEntry, hp]
    · rw [putEntry, if_neg hk, List.filter_cons, List.filter_cons, ih]
      cases hp : p name <;> cases hpk : p k <;> simp [putEntry, hk]

/-- **Entries under chosen names make the part of the map under these names.** -/
theorem entries_ofList_filter (p : String → Bool) (es : List (String × α)) :
    (ofList (es.filter fun e => p e.1)).entries = (ofList es).entries.filter fun e => p e.1 := by
  induction es using List.reverseRecOn with
  | nil => rfl
  | append_singleton es e ih =>
    have hput : ((ofList es).insert e.1 e.2).entries.filter (fun e => p e.1) =
        if p e.1 then putEntry e.1 e.2 ((ofList es).entries.filter fun e => p e.1)
        else (ofList es).entries.filter fun e => p e.1 := filter_putEntry p e.1 e.2 _
    rw [List.filter_append, ofList_concat, hput, ← ih]
    by_cases hp : p e.1 = true
    · have hone : [e].filter (fun e => p e.1) = [e] := List.filter_cons_of_pos hp
      rw [hone, if_pos hp, ofList_concat]
      rfl
    · have hnone : [e].filter (fun e => p e.1) = [] := List.filter_cons_of_neg hp
      rw [hnone, if_neg hp, List.append_nil]

/-- **Each name stands where it first came, with the value that came last.** -/
theorem entries_ofList_eq (es : List (String × α)) : (ofList es).entries = merged es := by
  rw [eq_filterMap_of_nodup (ofList es).nodup, merged]
  simp only [← names_ofList, ← get?_ofList]
  rfl

end OrderedMap

end DaprHosting
