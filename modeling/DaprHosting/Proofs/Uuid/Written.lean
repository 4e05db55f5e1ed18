import DaprHosting.Uuid

/-!
# Identifiers are known by their text

The text of an identifier is its thirty-two digits with hyphens between them. The hyphens can be
taken out again, and the digits are those of one number only, so no two identifiers are written
alike (`toText_inj`).
-/

namespace DaprHosting.Uuid

/-! ## 1. Digits -/

theorem digitChar_inj : ∀ m < 16, ∀ n < 16, Nat.digitChar m = Nat.digitChar n → m = n := by decide

theorem digitChar_ne_hyphen : ∀ n < 16, Nat.digitChar n ≠ '-' := by decide

/-- The number that is left of a number after its lowest digits. -/
theorem mod_pow_eq_of_digits {m n k : Nat}
    (h : ∀ i < k, m / Nat.pow 16 i % 16 = n / Nat.pow 16 i % 16) :
    m % Nat.pow 16 k = n % Nat.pow 16 k := by
  induction k with
  | zero => exact (Nat.mod_one m).trans (Nat.mod_one n).symm
  | succ k ih =>
    have hlow := ih fun i hi => h i (Nat.lt_succ_of_lt hi)
    have hm : m % Nat.pow 16 (k + 1) = _ := Nat.mod_pow_succ
    have hn : n % Nat.pow 16 (k + 1) = _ := Nat.mod_pow_succ
    rw [hm, hn]
    exact congr (congrArg (· + ·) hlow) (congrArg _ (h k (Nat.lt_succ_self k)))

theorem mem_digits {u : Uuid} {c : Char} (h : c ∈ u.digits) : ∃ n < 16, c = Nat.digitChar n := by
  obtain ⟨i, -, rfl⟩ := List.mem_map.mp h
  exact ⟨_, Nat.mod_lt _ (by decide), rfl⟩

/-- **The digits are those of one identifier.** -/
theorem digits_inj {u v : Uuid} (h : u.digits = v.digits) : u = v := by
  have hdigits : ∀ i < 32, u.bits.toNat / Nat.pow 16 i % 16 = v.bits.toNat / Nat.pow 16 i % 16 := by
    intro i hi
    have hmem : 31 - i ∈ List.range 32 := List.mem_range.mpr (by omega)
    have heq := List.map_inj_left.mp h (31 - i) hmem
    have hsub : 31 - (31 - i) = i := by omega
    rw [hsub] at heq
    exact digitChar_inj _ (Nat.mod_lt _ (by decide)) _ (Nat.mod_lt _ (by decide)) heq
  have hmod := mod_pow_eq_of_digits hdigits
  have hlt : ∀ w : Uuid, w.bits.toNat < Nat.pow 16 32 := fun w => w.bits.isLt
  rw [Nat.mod_eq_of_lt (hlt u), Nat.mod_eq_of_lt (hlt v)] at hmod
  obtain ⟨b⟩ := u
  obtain ⟨c⟩ := v
  exact congrArg Uuid.mk (BitVec.eq_of_toNat_eq hmod)

/-! ## 2. Texts -/

/-- Without its hyphens a text is its digits. -/
theorem filter_toChars (u : Uuid) : u.toChars.filter (· ≠ '-') = u.digits := by
  have hself : ∀ cs : List Char, cs ⊆ u.digits → cs.filter (· ≠ '-') = cs := by
    intro cs hcs
    refine List.filter_eq_self.mpr fun c hc => decide_eq_true ?_
    obtain ⟨n, hn, rfl⟩ := mem_digits (hcs hc)
    exact digitChar_ne_hyphen n hn
  have hpart : ∀ i n, ((u.digits.drop i).take n).filter (· ≠ '-') = (u.digits.drop i).take n :=
    fun i n => hself _ fun c hc => List.mem_of_mem_drop (List.mem_of_mem_take hc)
  have hfront := hpart 0 8
  have hback := hself (u.digits.drop 20) fun c hc => List.mem_of_mem_drop hc
  rw [List.drop_zero] at hfront
  simp only [toChars, List.filter_append, List.filter_cons_of_neg, hpart, hfront, hback,
    ne_eq, not_true_eq_false, decide_false, Bool.false_eq_true, not_false_eq_true]
  have hjoin : ∀ i n, (u.digits.drop i).take n ++ u.digits.drop (i + n) = u.digits.drop i := by
    intro i n
    rw [← List.drop_drop, List.take_append_drop]
  rw [List.append_assoc, List.append_assoc, List.append_assoc, hjoin 16 4, hjoin 12 4, hjoin 8 4,
    List.take_append_drop]

/-- **No two identifiers are written alike.** -/
theorem toText_inj {u v : Uuid} (h : u.toText = v.toText) : u = v := by
  have hchars : u.toChars = v.toChars := String.ofList_inj.mp h
  exact digits_inj (by rw [← filter_toChars, ← filter_toChars, hchars])

theorem mem_toChars {u : Uuid} {c : Char} (h : c ∈ u.toChars) :
    c = '-' ∨ ∃ n < 16, c = Nat.digitChar n := by
  by_cases hc : c = '-'
  · exact .inl hc
  · refine .inr (mem_digits (u := u) ?_)
    rw [← filter_toChars]
    exact List.mem_filter.mpr ⟨h, decide_eq_true hc⟩

theorem hyphen_mem_toChars (u : Uuid) : '-' ∈ u.toChars := by simp [toChars]

end DaprHosting.Uuid
