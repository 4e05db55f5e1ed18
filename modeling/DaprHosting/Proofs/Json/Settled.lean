import DaprHosting.Json.Settled
import DaprHosting.Proofs.Json.Written
import DaprHosting.Proofs.Lists
import DaprHosting.Proofs.OrderedMap.Merged

/-!
# Documents with each name once

A settled document has each name once in each of its objects, and no part of it denotes nothing.
Settling makes such a document of any that it can be made of, and none the deeper
(`settled_of_settle?`, `depth_le_of_settle?`); a settled document stays as it is
(`settle?_of_settled`). A document of texts and integers can always be settled, and remains one.
-/

namespace DaprHosting.Json

/-! ## 1. Part by part -/

/-- **Induction on documents**: what holds of an array or an object when it holds of all its parts
    holds of every document. -/
theorem induction {P : Json → Prop} (null : P .null) (bool : ∀ b, P (.bool b))
    (number : ∀ n, P (.number n)) (string : ∀ s, P (.string s))
    (array : ∀ js, (∀ j ∈ js, P j) → P (.array js))
    (object : ∀ ms : List (String × Json), (∀ m ∈ ms, P m.2) → P (.object ms)) (void : P .void)
    (j : Json) : P j := by
  refine @Json.rec P (fun js => ∀ j ∈ js, P j) (fun ms => ∀ m ∈ ms, P m.2) (fun m => P m.2) null bool
    number string array object void nofun ?_ nofun ?_ (fun _ _ h => h) j
  · exact fun j js hj hjs => List.forall_mem_cons.mpr ⟨hj, hjs⟩
  · exact fun m ms hm hms => List.forall_mem_cons.mpr ⟨hm, hms⟩

/-- The member is the other one with its value settled. -/
def SettlesTo (m m' : String × Json) : Prop := m'.1 = m.1 ∧ m.2.settle? = some m'.2

theorem settleElements?_eq_some_iff {js js' : List Json} :
    settleElements? js = some js' ↔ List.Forall₂ (fun j j' => j.settle? = some j') js js' := by
  have hmapM : settleElements? js = js.mapM settle? := by
    induction js with
    | nil => rfl
    | cons j js ih => rw [settleElements?, List.mapM_cons, ih]
  rw [hmapM, mapM_eq_some_iff]

theorem settleMembers?_eq_some_iff {ms ms' : List (String × Json)} :
    settleMembers? ms = some ms' ↔ List.Forall₂ SettlesTo ms ms' := by
  have hmapM : settleMembers? ms = ms.mapM fun m => (settle? m.2).map (m.1, ·) := by
    induction ms with
    | nil => rfl
    | cons m ms ih =>
      rw [settleMembers?, List.mapM_cons, ih]
      cases m.2.settle? <;> rfl
  have hmember : ∀ m m' : String × Json,
      (settle? m.2).map (m.1, ·) = some m' ↔ SettlesTo m m' := by
    intro m m'
    rw [Option.map_eq_some_iff]
    constructor
    · rintro ⟨j, hj, rfl⟩
      exact ⟨rfl, hj⟩
    · rintro ⟨hname, hj⟩
      exact ⟨m'.2, hj, Prod.ext hname.symm rfl⟩
  simp only [hmapM, mapM_eq_some_iff, hmember]

theorem settle?_array_eq_some_iff {js : List Json} {j : Json} :
    (array js).settle? = some j ↔
      ∃ js', List.Forall₂ (fun i i' => i.settle? = some i') js js' ∧ j = .array js' := by
  rw [settle?, Option.map_eq_some_iff]
  simp only [settleElements?_eq_some_iff, eq_comm (a := j)]

/-- **What an object says**: its members with their values settled, each name once. -/
theorem settle?_object_eq_some_iff {ms : List (String × Json)} {j : Json} :
    (object ms).settle? = some j ↔
      ∃ ms', List.Forall₂ SettlesTo ms ms' ∧ j = .object (OrderedMap.ofList ms').entries := by
  rw [settle?, Option.map_eq_some_iff]
  simp only [settleMembers?_eq_some_iff, eq_comm (a := j)]

/-! ## 2. Settled documents -/

/-- **A settled document.** -/
inductive Settled : Json → Prop where
  | null : Settled .null
  | bool (b : Bool) : Settled (.bool b)
  | number (n : Number) : Settled (.number n)
  | string (s : String) : Settled (.string s)
  | array {js : List Json} (h : ∀ j ∈ js, Settled j) : Settled (.array js)
  | object {ms : List (String × Json)} (hnames : (ms.map Prod.fst).Nodup)
      (h : ∀ m ∈ ms, Settled m.2) : Settled (.object ms)

/-- **It stays as it is.** -/
theorem settle?_of_settled {j : Json} (h : Settled j) : j.settle? = some j := by
  induction h with
  | null | bool | number | string => rfl
  | array _ ih => exact settle?_array_eq_some_iff.mpr ⟨_, List.forall₂_same.mpr ih, rfl⟩
  | object hnames _ ih =>
    refine settle?_object_eq_some_iff.mpr
      ⟨_, List.forall₂_same.mpr fun m hm => ⟨rfl, ih m hm⟩, ?_⟩
    rw [OrderedMap.entries_ofList hnames]

/-- **What is settled is a settled document.** -/
theorem settled_of_settle? {j j' : Json} (h : j.settle? = some j') : Settled j' := by
  induction j using Json.induction generalizing j' with
  | null =>
    cases h
    exact .null
  | bool b =>
    cases h
    exact .bool b
  | number n =>
    cases h
    exact .number n
  | string s =>
    cases h
    exact .string s
  | array js ih =>
    obtain ⟨js', hjs, rfl⟩ := settle?_array_eq_some_iff.mp h
    refine .array fun i' hi' => ?_
    obtain ⟨i, hi, hsettle⟩ := exists_left_of_forall₂ hjs hi'
    exact ih i hi hsettle
  | object ms ih =>
    obtain ⟨ms', hms, rfl⟩ := settle?_object_eq_some_iff.mp h
    refine .object (OrderedMap.ofList ms').nodup fun m' hm' => ?_
    obtain ⟨m, hm, -, hsettle⟩ :=
      exists_left_of_forall₂ hms (OrderedMap.mem_of_mem_entries_ofList hm')
    exact ih m hm hsettle
  | void => cases h

/-! ## 3. Depth -/

theorem depthElements_le_iff {js : List Json} {n : Nat} :
    depthElements js ≤ n ↔ ∀ j ∈ js, j.depth ≤ n := by
  induction js with
  | nil => simp [depthElements]
  | cons j js ih => rw [depthElements, Nat.max_le, ih, List.forall_mem_cons]

theorem depthMembers_le_iff {ms : List (String × Json)} {n : Nat} :
    depthMembers ms ≤ n ↔ ∀ m ∈ ms, m.2.depth ≤ n := by
  induction ms with
  | nil => simp [depthMembers]
  | cons m ms ih => rw [depthMembers, Nat.max_le, ih, List.forall_mem_cons]

/-- **Settling makes nothing deeper.** -/
theorem depth_le_of_settle? {j j' : Json} (h : j.settle? = some j') : j'.depth ≤ j.depth := by
  induction j using Json.induction generalizing j' with
  | null | bool | number | string =>
    cases h
    exact Nat.le_refl _
  | array js ih =>
    obtain ⟨js', hjs, rfl⟩ := settle?_array_eq_some_iff.mp h
    rw [depth, depth]
    refine Nat.succ_le_succ (depthElements_le_iff.mpr fun i' hi' => ?_)
    obtain ⟨i, hi, hsettle⟩ := exists_left_of_forall₂ hjs hi'
    exact (ih i hi hsettle).trans (depthElements_le_iff.mp (Nat.le_refl _) i hi)
  | object ms ih =>
    obtain ⟨ms', hms, rfl⟩ := settle?_object_eq_some_iff.mp h
    rw [depth, depth]
    refine Nat.succ_le_succ (depthMembers_le_iff.mpr fun m' hm' => ?_)
    obtain ⟨m, hm, -, hsettle⟩ :=
      exists_left_of_forall₂ hms (OrderedMap.mem_of_mem_entries_ofList hm')
    exact (ih m hm hsettle).trans (depthMembers_le_iff.mp (Nat.le_refl _) m hm)
  | void => cases h

/-! ## 4. Texts and integers -/

/-- **A document of texts and integers can be settled**, and remains one. -/
theorem Integral.exists_settle? {j : Json} (h : Integral j) :
    ∃ j', j.settle? = some j' ∧ Integral j' := by
  induction h with
  | null => exact ⟨_, rfl, .null⟩
  | bool b => exact ⟨_, rfl, .bool b⟩
  | integer h => exact ⟨_, rfl, .integer h⟩
  | string s => exact ⟨_, rfl, .string s⟩
  | @array js _ ih =>
    obtain ⟨js', hjs⟩ := exists_forall₂ ih
    refine ⟨.array js', settle?_array_eq_some_iff.mpr
      ⟨js', hjs.imp fun _ _ hi => hi.1, rfl⟩, .array fun i' hi' => ?_⟩
    obtain ⟨-, -, -, hi⟩ := exists_left_of_forall₂ hjs hi'
    exact hi
  | @object ms _ ih =>
    have hmembers : ∀ m ∈ ms, ∃ m', SettlesTo m m' ∧ Integral m'.2 := by
      intro m hm
      obtain ⟨j', hsettle, hj'⟩ := ih m hm
      exact ⟨(m.1, j'), ⟨rfl, hsettle⟩, hj'⟩
    obtain ⟨ms', hms⟩ := exists_forall₂ hmembers
    refine ⟨_, settle?_object_eq_some_iff.mpr ⟨ms', hms.imp fun _ _ hm => hm.1, rfl⟩,
      .object fun m' hm' => ?_⟩
    obtain ⟨-, -, -, hm⟩ :=
      exists_left_of_forall₂ hms (OrderedMap.mem_of_mem_entries_ofList hm')
    exact hm

end DaprHosting.Json
