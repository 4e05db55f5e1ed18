import Mathlib.Data.List.Forall2

/-!
# Lists element by element

Two lists stand beside each other when their elements are related one by one: what is read of a list
stands beside it, and each element of either has one beside it in the other. And what is taken from
the front of a list, as long as its elements are of one kind, ends at the first of another.
-/

namespace DaprHosting

section Beside

variable {α γ : Type*} {R : α → γ → Prop} {as : List α} {cs : List γ}

theorem exists_left_of_forall₂ (h : List.Forall₂ R as cs) {c : γ} (hc : c ∈ cs) :
    ∃ a ∈ as, R a c := by
  induction h with
  | nil => cases hc
  | cons hac _ ih =>
    rcases List.mem_cons.mp hc with rfl | hc
    · exact ⟨_, List.mem_cons_self .., hac⟩
    · obtain ⟨a, ha, hac⟩ := ih hc
      exact ⟨a, List.mem_cons_of_mem _ ha, hac⟩

theorem exists_right_of_forall₂ (h : List.Forall₂ R as cs) {a : α} (ha : a ∈ as) :
    ∃ c ∈ cs, R a c := by
  obtain ⟨c, hc, hac⟩ := exists_left_of_forall₂ h.flip ha
  exact ⟨c, hc, hac⟩

/-- Elements that each have one beside them have a list of these. -/
theorem exists_forall₂ (h : ∀ a ∈ as, ∃ c, R a c) : ∃ cs, List.Forall₂ R as cs := by
  induction as with
  | nil => exact ⟨[], .nil⟩
  | cons a as ih =>
    obtain ⟨⟨c, hc⟩, has⟩ := List.forall_mem_cons.mp h
    obtain ⟨cs, hcs⟩ := ih has
    exact ⟨c :: cs, .cons hc hcs⟩

end Beside

section Front

variable {α : Type*} {p : α → Bool} {front rest : List α}

/-- Nothing is dropped of a list that begins otherwise, -/
theorem dropWhile_of_head (h : ∀ a, rest.head? = some a → p a = false) :
    rest.dropWhile p = rest := by
  cases rest with
  | nil => rfl
  | cons a rest => exact List.dropWhile_cons_of_neg (by simp [h a rfl])

/-- and nothing is taken. -/
theorem takeWhile_of_head (h : ∀ a, rest.head? = some a → p a = false) :
    rest.takeWhile p = [] := by
  cases rest with
  | nil => rfl
  | cons a rest => exact List.takeWhile_cons_of_neg (by simp [h a rfl])

/-- **What is taken from the front ends where the list goes on otherwise.** -/
theorem takeWhile_append_of_head (hfront : ∀ a ∈ front, p a = true)
    (h : ∀ a, rest.head? = some a → p a = false) : (front ++ rest).takeWhile p = front := by
  rw [List.takeWhile_append_of_pos hfront, takeWhile_of_head h, List.append_nil]

theorem dropWhile_append_of_head (hfront : ∀ a ∈ front, p a = true)
    (h : ∀ a, rest.head? = some a → p a = false) : (front ++ rest).dropWhile p = rest := by
  rw [List.dropWhile_append_of_pos hfront, dropWhile_of_head h]

end Front

/-- A list is read element by element. -/
theorem mapM_eq_some_iff {α β : Type} {read : α → Option β} {as : List α} {bs : List β} :
    as.mapM read = some bs ↔ List.Forall₂ (fun a b => read a = some b) as bs := by
  induction as generalizing bs with
  | nil =>
    rw [List.forall₂_nil_left_iff]
    exact ⟨fun h => (Option.some.inj h).symm, fun h => h ▸ rfl⟩
  | cons a as ih =>
    rw [List.mapM_cons, List.forall₂_cons_left_iff]
    simp only [Option.bind_eq_bind, Option.bind_eq_some_iff, Option.pure_def, Option.some.injEq, ih]
    constructor
    · rintro ⟨b, hb, bs, hbs, rfl⟩
      exact ⟨b, bs, hb, hbs, rfl⟩
    · rintro ⟨b, bs, hb, hbs, rfl⟩
      exact ⟨b, hb, bs, hbs, rfl⟩

end DaprHosting
