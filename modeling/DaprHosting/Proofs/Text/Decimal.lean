import DaprHosting.Text.Ascii
import Mathlib.Data.List.Induction

/-!
# Decimal numerals

Digits are read as a number from the left, and a number is written in one way without leading
zeros: `eq_decimal_iff` says that the digits of a number are just those that are read as it and do
not start with a zero, unless they are the zero alone.
-/

namespace DaprHosting.Text

/-! ## 1. Digits and letters -/

/-- The value of a digit. -/
def digitValue (c : Char) : Nat := c.toNat - 48

theorem bounds_of_isDigit {c : Char} (h : c.isDigit = true) : 48 ≤ c.toNat ∧ c.toNat ≤ 57 := by
  simpa [Char.isDigit, UInt32.le_iff_toNat_le] using h

theorem bounds_of_isAlpha {c : Char} (h : c.isAlpha = true) : 65 ≤ c.toNat ∧ c.toNat ≤ 122 := by
  have hcase : c.isUpper = true ∨ c.isLower = true := Bool.or_eq_true_iff.mp h
  rcases hcase with h | h
  · obtain ⟨hlow, hhigh⟩ := of_decide_eq_true h
    exact ⟨UInt32.le_iff_toNat_le.mp hlow,
      Nat.le_trans (UInt32.le_iff_toNat_le.mp hhigh) (by decide : 90 ≤ 122)⟩
  · obtain ⟨hlow, hhigh⟩ := Bool.and_eq_true_iff.mp h
    exact ⟨Nat.le_trans (by decide : 65 ≤ 97)
        (UInt32.le_iff_toNat_le.mp (of_decide_eq_true hlow)),
      UInt32.le_iff_toNat_le.mp (of_decide_eq_true hhigh)⟩

/-- A digit is known by its value. -/
theorem digitChar_digitValue {c : Char} (h : c.isDigit = true) :
    Nat.digitChar (digitValue c) = c := by
  obtain ⟨hlow, hhigh⟩ := bounds_of_isDigit h
  refine Char.toNat_inj.mp ?_
  rw [digitValue, Nat.toNat_digitChar_of_lt_ten (by omega)]
  omega

theorem digitValue_lt {c : Char} (h : c.isDigit = true) : digitValue c < 10 := by
  obtain ⟨-, hhigh⟩ := bounds_of_isDigit h
  unfold digitValue
  omega

theorem decimalDigit?_of_isDigit {c : Char} (h : c.isDigit = true) :
    decimalDigit? c = some (digitValue c) := if_pos h

theorem decimalDigit?_of_not_isDigit {c : Char} (h : c.isDigit = false) : decimalDigit? c = none :=
  if_neg (by rw [h]; decide)

/-! ## 2. Reading -/

theorem ofDigitChars_cons (c : Char) (cs : List Char) (n : Nat) :
    Nat.ofDigitChars 10 (c :: cs) n = Nat.ofDigitChars 10 cs (n * 10 + digitValue c) := by
  rw [Nat.ofDigitChars_cons, Nat.mul_comm]
  rfl

/-- Digits behind a number make it no smaller. -/
theorem le_ofDigitChars (cs : List Char) (n : Nat) : n ≤ Nat.ofDigitChars 10 cs n := by
  induction cs generalizing n with
  | nil => exact Nat.le_refl n
  | cons c cs ih =>
    rw [ofDigitChars_cons]
    have hmore := ih (n * 10 + digitValue c)
    omega

/-- Zeros in front mean nothing. -/
theorem ofDigitChars_replicate_zero (zeros : Nat) (cs : List Char) :
    Nat.ofDigitChars 10 (List.replicate zeros '0' ++ cs) 0 = Nat.ofDigitChars 10 cs 0 := by
  induction zeros with
  | zero => rfl
  | succ zeros ih =>
    rw [List.replicate_succ, List.cons_append, Nat.ofDigitChars_cons]
    exact ih

/-- One more digit at the end of a numeral. -/
theorem numeral?_concat {d : Char} (hd : d.isDigit = true) (cs : List Char) :
    numeral? 10 (cs ++ [d]) = (numeral? 10 cs).map (· * 10 + digitValue d) := by
  have hdigit : hexDigit? d = some (digitValue d) := by
    rw [hexDigit?, if_pos hd]
    rfl
  rw [numeral?, numeral?, List.foldl_append]
  cases cs.foldl _ (some 0) with
  | none => rfl
  | some n =>
    have hlt := digitValue_lt hd
    simp [hdigit, hlt]

/-- **Digits are read as their value.** -/
theorem numeral?_eq_ofDigitChars {cs : List Char} (h : ∀ c ∈ cs, c.isDigit = true) :
    numeral? 10 cs = some (Nat.ofDigitChars 10 cs 0) := by
  induction cs using List.reverseRecOn with
  | nil => rfl
  | append_singleton cs c ih =>
    rw [List.forall_mem_append, List.forall_mem_singleton] at h
    rw [numeral?_concat h.2, ih h.1, Nat.ofDigitChars_append, Nat.ofDigitChars_cons,
      Nat.ofDigitChars_nil, Nat.mul_comm]
    rfl

/-- Nothing but digits is read. -/
theorem isDigit_of_numeral? {cs : List Char} {n : Nat} (h : numeral? 10 cs = some n) :
    ∀ c ∈ cs, c.isDigit = true := by
  induction cs using List.reverseRecOn generalizing n with
  | nil => nofun
  | append_singleton cs c ih =>
    rw [numeral?, List.foldl_append, List.foldl_cons, List.foldl_nil] at h
    obtain ⟨x, hx, h⟩ := Option.bind_eq_some_iff.mp h
    obtain ⟨d, hd, h⟩ := Option.bind_eq_some_iff.mp h
    refine List.forall_mem_append.mpr ⟨ih hx, List.forall_mem_singleton.mpr ?_⟩
    have hlt : d < 10 := by
      split at h
      · assumption
      · cases h
    -- a letter stands for ten at least
    rw [hexDigit?] at hd
    split at hd
    · assumption
    split at hd
    · cases hd
      omega
    split at hd
    · cases hd
      omega
    · cases hd

/-- **Digits of one length are those of their number.** -/
theorem numeral?_inj {cs ds : List Char} {n : Nat} (hcs : ∀ c ∈ cs, c.isDigit = true)
    (hds : ∀ d ∈ ds, d.isDigit = true) (hlen : cs.length = ds.length)
    (hn : numeral? 10 cs = some n) (hn' : numeral? 10 ds = some n) : cs = ds := by
  induction cs using List.reverseRecOn generalizing ds n with
  | nil => exact (List.length_eq_zero_iff.mp hlen.symm).symm
  | append_singleton cs c ih =>
    obtain rfl | ⟨ds, d, rfl⟩ := List.eq_nil_or_concat ds
    · rw [List.length_append] at hlen
      cases hlen
    rw [List.concat_eq_append] at hds hlen hn' ⊢
    rw [List.forall_mem_append, List.forall_mem_singleton] at hcs hds
    rw [numeral?_concat hcs.2, Option.map_eq_some_iff] at hn
    rw [numeral?_concat hds.2, Option.map_eq_some_iff] at hn'
    obtain ⟨x, hx, rfl⟩ := hn
    obtain ⟨y, hy, hxy⟩ := hn'
    have hc := digitValue_lt hcs.2
    have hd := digitValue_lt hds.2
    have hlast : digitValue c = digitValue d := by omega
    have hfront : x = y := by omega
    have hsame : c = d := by
      rw [← digitChar_digitValue hcs.2, hlast, digitChar_digitValue hds.2]
    simp only [List.length_append, List.length_singleton, Nat.add_right_cancel_iff] at hlen
    rw [ih hcs.1 hds.1 hlen hx (hfront ▸ hy), hsame]

/-! ## 3. Writing -/

/-- Digits without a leading zero are the numeral of their number. -/
theorem eq_decimal {cs : List Char} {n : Nat} (hne : cs ≠ []) (hcs : ∀ c ∈ cs, c.isDigit = true)
    (hzero : cs.head? = some '0' → cs = ['0']) (hn : numeral? 10 cs = some n) :
    cs = decimal n := by
  rw [decimal]
  induction cs using List.reverseRecOn generalizing n with
  | nil => exact absurd rfl hne
  | append_singleton cs c ih =>
    rw [List.forall_mem_append, List.forall_mem_singleton] at hcs
    rw [numeral?_concat hcs.2, Option.map_eq_some_iff] at hn
    obtain ⟨x, hx, rfl⟩ := hn
    have hc := digitValue_lt hcs.2
    by_cases hfirst : cs = []
    · subst hfirst
      cases hx
      rw [Nat.zero_mul, Nat.zero_add, Nat.toDigits_of_lt_base hc, digitChar_digitValue hcs.2]
      rfl
    · have hhead : cs.head? ≠ some '0' := by
        intro e
        have hlen := congrArg List.length (hzero (by rw [List.head?_append, e]; rfl))
        rw [List.length_append, List.length_singleton] at hlen
        exact hfirst (List.length_eq_zero_iff.mp (Nat.add_right_cancel hlen))
      have hfront := ih hfirst hcs.1 (fun e => absurd e hhead) hx
      have hpos : 0 < x := by
        refine Nat.pos_of_ne_zero fun e => hhead ?_
        rw [hfront, e]
        rfl
      have happend := Nat.toDigits_append_toDigits (b := 10) (by decide) hpos hc
      rw [← hfront, Nat.toDigits_of_lt_base hc, digitChar_digitValue hcs.2] at happend
      rw [happend, Nat.mul_comm]

theorem decimal_ne_nil (n : Nat) : decimal n ≠ [] := Nat.toDigits_ne_nil

theorem isDigit_of_mem_decimal {n : Nat} {c : Char} (h : c ∈ decimal n) : c.isDigit = true :=
  Nat.isDigit_of_mem_toDigits (by decide) (by decide) h

/-- **What is written for a number is read as it.** -/
theorem numeral?_decimal (n : Nat) : numeral? 10 (decimal n) = some n := by
  rw [numeral?_eq_ofDigitChars fun c => isDigit_of_mem_decimal, decimal,
    Nat.ofDigitChars_toDigits (by decide) (by decide)]

/-- Only zero is written with a zero in front. -/
theorem decimal_of_head? {n : Nat} (h : (decimal n).head? = some '0') : decimal n = ['0'] := by
  induction n using Nat.strongRecOn with
  | ind n ih =>
    by_cases hn : n < 10
    · rw [decimal, Nat.toDigits_of_lt_base hn] at h ⊢
      rw [List.head?_singleton, Option.some.injEq] at h
      rw [h]
    · have hsplit : decimal n = decimal (n / 10) ++ [(n % 10).digitChar] :=
        Nat.toDigits_of_base_le (by decide) (by omega)
      have hfront : (decimal (n / 10)).head? = some '0' := by
        obtain ⟨d, ds, hds⟩ := List.exists_cons_of_ne_nil (decimal_ne_nil (n / 10))
        rw [hsplit, hds] at h
        rw [hds]
        exact h
      -- then nothing would stand before the last digit but a zero
      have hzero := ih (n / 10) (by omega) hfront
      have hread := numeral?_decimal (n / 10)
      rw [hzero] at hread
      have : 0 = n / 10 := Option.some.inj hread
      omega

/-- **A number is written in one way.** -/
theorem eq_decimal_iff {cs : List Char} {n : Nat} :
    cs = decimal n ↔ cs ≠ [] ∧ (∀ c ∈ cs, c.isDigit = true) ∧
      (cs.head? = some '0' → cs = ['0']) ∧ numeral? 10 cs = some n := by
  constructor
  · rintro rfl
    exact ⟨decimal_ne_nil n, fun c => isDigit_of_mem_decimal, decimal_of_head?,
      numeral?_decimal n⟩
  · rintro ⟨hne, hcs, hzero, hn⟩
    exact eq_decimal hne hcs hzero hn

end DaprHosting.Text
