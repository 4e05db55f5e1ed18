import DaprHosting.Proofs.Json.Written
import DaprHosting.Proofs.OrderedMap.Entries
import Mathlib.Data.List.Nodup

/-!
# Records are read as they were written

An object with one member for each field, in their order, gives every field its value
(`fields?_of_members`); and a value that may be absent is read back whether it is there or not,
unless it is itself written `null`.
-/

namespace DaprHosting.Json

theorem occurrences_eq_count (name : String) (ms : List (String × Json)) :
    occurrences name ms = (ms.map Prod.fst).count name := by
  rw [occurrences, List.count, List.countP_map, List.countP_eq_length_filter]
  rfl

theorem entry?_of_occurrences {ms : List (String × Json)} {name : String}
    (h : occurrences name ms = 0) : entry? name ms = none := by
  rw [occurrences_eq_count, List.count_eq_zero] at h
  exact entry?_eq_none_iff.mpr h

section Inserted

variable (before after : List (String × Json)) (j : Json)

/-- A member more counts for its own name. -/
theorem occurrences_insert (name k : String) :
    occurrences name (before ++ (k, j) :: after) =
      occurrences name (before ++ after) + if k = name then 1 else 0 := by
  simp only [occurrences_eq_count, List.map_append, List.map_cons, List.count_append,
    List.count_cons, beq_iff_eq, Nat.add_assoc]

theorem entry?_insert_of_ne {name k : String} (h : name ≠ k) :
    entry? name (before ++ (k, j) :: after) = entry? name (before ++ after) := by
  rw [entry?_append, entry?_append, entry?, if_neg h.symm]

end Inserted

/-- **The members of a record are its fields.** -/
theorem fields?_of_members (names : List String) (ms : List (String × Json))
    (hnames : ms.map Prod.fst = names) (h : names.Nodup) (mayEndEarly : Bool) :
    (Json.object ms).fields? names mayEndEarly = some (ms.map fun m => some m.2) := by
  subst hnames
  have honce : ((ms.map Prod.fst).all fun name => occurrences name ms ≤ 1) = true := by
    refine List.all_eq_true.mpr fun name _ => ?_
    rw [occurrences_eq_count, decide_eq_true_eq]
    exact List.nodup_iff_count_le_one.mp h name
  rw [fields?, if_pos honce, List.map_map]
  exact congrArg some (List.map_congr_left fun m hm => entry?_of_mem h hm)

/-- What stands under a name is told by the members of that name. -/
theorem entry?_eq_head? {α : Type} (name : String) (ms : List (String × α)) :
    entry? name ms = ((ms.filter fun m => m.1 == name).head?).map Prod.snd := by
  induction ms with
  | nil => rfl
  | cons m ms ih =>
    obtain ⟨k, v⟩ := m
    by_cases hk : k = name
    · rw [ entry?, if_pos hk, List.filter_cons_of_pos (by simp [hk])]
      rfl
    · rw [ entry?, if_neg hk, ih, List.filter_cons_of_neg (by simp [hk])]

/-- **The same members under a name, in whatever order.** -/
def AgreeOn (names : List String) (ms ms' : List (String × Json)) : Prop :=
  ∀ name ∈ names, (ms.filter fun m => m.1 == name).Perm (ms'.filter fun m => m.1 == name)

/-- **The fields of an object are told by the members that are fields**: not by their order, nor by
    any others. -/
theorem fields?_congr {names : List String} {ms ms' : List (String × Json)}
    (h : AgreeOn names ms ms') (mayEndEarly : Bool) :
    (Json.object ms).fields? names mayEndEarly = (Json.object ms').fields? names mayEndEarly := by
  have hcount : ∀ name ∈ names, occurrences name ms = occurrences name ms' :=
    fun name hname => (h name hname).length_eq
  have honce : (names.all fun name => occurrences name ms ≤ 1) =
      names.all fun name => occurrences name ms' ≤ 1 := by
    rw [Bool.eq_iff_iff, List.all_eq_true, List.all_eq_true]
    exact forall₂_congr fun name hname => by rw [hcount name hname]
  rw [fields?, fields?, honce]
  split
  · rename_i hall
    refine congrArg some (List.map_congr_left fun name hname => ?_)
    have hle : occurrences name ms' ≤ 1 := of_decide_eq_true (List.all_eq_true.mp hall name hname)
    have hsame : ms.filter (fun m => m.1 == name) = ms'.filter fun m => m.1 == name := by
      cases hms : ms'.filter fun m => m.1 == name with
      | nil => exact List.perm_nil.mp (hms ▸ h name hname)
      | cons m rest =>
        rw [occurrences, hms, List.length_cons] at hle
        have hrest : rest = [] := List.length_eq_zero_iff.mp (by omega)
        subst hrest
        exact List.perm_singleton.mp (hms ▸ h name hname)
    rw [entry?_eq_head?, entry?_eq_head?, hsame]
  · rfl

theorem nullable_of_ne_null {α : Type} {read : Json → Option α} {j : Json} (h : j ≠ .null) :
    nullable read j = (read j).map some := by
  cases j with
  | null => exact absurd rfl h
  | _ => rfl

/-- **A value that may be absent is read back.** -/
theorem optional_ofOption {α : Type} (read : Json → Option α) (write : α → Json)
    (hnull : ∀ a, write a ≠ .null) (hread : ∀ a, read (write a) = some a) (o : Option α) :
    optional read (some (ofOption write o)) = some o := by
  cases o with
  | none => rfl
  | some a =>
    rw [ofOption, optional, fieldOr, nullable_of_ne_null (hnull a), hread]
    rfl

theorem optional_ofString? (o : Option String) :
    optional string? (some (ofString? o)) = some o :=
  optional_ofOption string? .string nofun (fun _ => rfl) o

/-- **So is a map of strings**, in its order. -/
theorem strings?_ofStrings (m : OrderedMap String) :
    fieldOr .empty strings? (some (ofStrings m.entries)) = some m :=
  stringMap?_ofStrings m

end DaprHosting.Json
