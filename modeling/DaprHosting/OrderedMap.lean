/-!
# Ordered maps

A map from names that remembers the order in which the names first came: writing a name that is
already present keeps its place and takes the new value. Settings, protected settings, members of
a resource and stores of resources are all maps of this kind, because their order is seen in the
documents that are submitted.

`OrderedMap.get?` is the view; what `insert` does to it, and to the order of the names, is said by
`get?_insert` and `names_insert`.
-/

namespace DaprHosting

/-! ## 1. Association lists -/

/-- The value of the first entry with the name. -/
def entry? {α : Type} (name : String) : List (String × α) → Option α
  | [] => none
  | (k, v) :: rest => if k = name then some v else entry? name rest

/-- The entries with the value of `name` replaced where it stands, or added at the end. -/
def putEntry {α : Type} (name : String) (value : α) : List (String × α) → List (String × α)
  | [] => [(name, value)]
  | (k, v) :: rest => if k = name then (k, value) :: rest else (k, v) :: putEntry name value rest

theorem entry?_putEntry {α : Type} (name other : String) (value : α) (es : List (String × α)) :
    entry? other (putEntry name value es) =
      if other = name then some value else entry? other es := by
  induction es with
  | nil =>
    by_cases h : other = name
    · simp [putEntry, entry?, h]
    · have h' : ¬ name = other := fun e => h e.symm
      simp [putEntry, entry?, h, h']
  | cons e es ih =>
    obtain ⟨k, v⟩ := e
    by_cases hk : k = name
    · subst hk
      by_cases h : other = k
      · subst h; simp [putEntry, entry?]
      · have h' : ¬ k = other := fun e => h e.symm
        simp [putEntry, entry?, h, h']
    · simp only [putEntry, if_neg hk, entry?]
      by_cases hko : k = other
      · subst hko; simp [hk]
      · simp [hko, ih]

theorem map_fst_putEntry {α : Type} (name : String) (value : α) (es : List (String × α)) :
    (putEntry name value es).map Prod.fst =
      if name ∈ es.map Prod.fst then es.map Prod.fst else es.map Prod.fst ++ [name] := by
  induction es with
  | nil => simp [putEntry]
  | cons e es ih =>
    obtain ⟨k, v⟩ := e
    by_cases hk : k = name
    · subst hk; simp [putEntry]
    · have hk' : ¬ name = k := fun e => hk e.symm
      simp only [putEntry, if_neg hk, List.map_cons, ih, List.mem_cons, hk', false_or]
      split <;> simp

theorem nodup_putEntry {α : Type} (name : String) (value : α) {es : List (String × α)}
    (h : (es.map Prod.fst).Nodup) : ((putEntry name value es).map Prod.fst).Nodup := by
  rw [map_fst_putEntry]
  split
  · exact h
  · rename_i hn
    exact List.nodup_append.2 ⟨h, by simp, by
      intro a ha b hb
      rw [List.mem_singleton.1 hb]
      exact fun e => hn (e ▸ ha)⟩

/-! ## 2. The type -/

/-- A map with each name once, in the order in which the names first came. -/
structure OrderedMap (α : Type) where
  entries : List (String × α)
  nodup : (entries.map Prod.fst).Nodup := by simp

namespace OrderedMap

variable {α : Type}

/-- The map without entries. -/
def empty : OrderedMap α := ⟨[], by simp⟩

instance : Inhabited (OrderedMap α) := ⟨empty⟩

theorem ext_entries {m n : OrderedMap α} (h : m.entries = n.entries) : m = n := by
  cases m; cases n; cases h; rfl

instance [DecidableEq α] : DecidableEq (OrderedMap α) := fun m n =>
  if h : m.entries = n.entries then isTrue (ext_entries h)
  else isFalse fun e => h (by rw [e])

/-- The names, in their order. -/
def names (m : OrderedMap α) : List String := m.entries.map Prod.fst

/-- The value under a name. -/
def get? (m : OrderedMap α) (name : String) : Option α := entry? name m.entries

/-- Nothing is in the map. -/
def isEmpty (m : OrderedMap α) : Bool := m.entries.isEmpty

/-- The map with a name set: at its place if it is there, at the end otherwise. -/
def insert (m : OrderedMap α) (name : String) (value : α) : OrderedMap α :=
  ⟨putEntry name value m.entries, nodup_putEntry name value m.nodup⟩

/-- The entries set one after the other, from the first to the last. -/
def insertAll (m : OrderedMap α) (entries : List (String × α)) : OrderedMap α :=
  entries.foldl (fun m e => m.insert e.1 e.2) m

/-- The map of a list of entries: a repeated name keeps its first place and its last value. -/
def ofList (entries : List (String × α)) : OrderedMap α := empty.insertAll entries

/-! ## 3. The view -/

@[simp] theorem get?_empty (name : String) : (empty : OrderedMap α).get? name = none := rfl

theorem get?_insert (m : OrderedMap α) (name other : String) (value : α) :
    (m.insert name value).get? other = if other = name then some value else m.get? other :=
  entry?_putEntry name other value m.entries

theorem names_insert (m : OrderedMap α) (name : String) (value : α) :
    (m.insert name value).names = if name ∈ m.names then m.names else m.names ++ [name] :=
  map_fst_putEntry name value m.entries

end OrderedMap

end DaprHosting
