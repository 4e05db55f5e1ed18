import DaprHosting.Proofs.Text.Utf8
import DaprHosting.Url.Percent

/-!
# What is percent encoded is decoded again

A byte that is written with two digits is read as this byte, and a character other than `%` as its
own bytes. A set that holds `%` therefore loses nothing: decoding what is encoded gives the bytes of
the characters, by `percentDecode_percentEncode`. The characters of the set are gone from what is
encoded, the percent sign and the digits apart (`mem_percentEncode`).
-/

namespace DaprHosting.Url

open Text

/-! ## 1. Bytes with two digits -/

theorem hexDigit?_digitChar_toUpper : ∀ n < 16, hexDigit? (Nat.digitChar n).toUpper = some n := by
  decide

theorem hexDigit?_upperHexDigit (n : Nat) : hexDigit? (upperHexDigit n) = some (n % 16) :=
  hexDigit?_digitChar_toUpper (n % 16) (Nat.mod_lt n (by decide))

/-- The two digits of a byte are read as the byte. -/
theorem byteOfDigits?_upperHexDigit (b : UInt8) :
    byteOfDigits? (upperHexDigit (b.toNat / 16)) (upperHexDigit b.toNat) = some b := by
  have hb : b.toNat < 256 := b.toNat_lt
  have hvalue : b.toNat / 16 % 16 * 16 + b.toNat % 16 = b.toNat := by omega
  simp only [byteOfDigits?, hexDigit?_upperHexDigit]
  exact congrArg some (by rw [hvalue, UInt8.ofNat_toNat])

theorem percentDecode_percentByte (b : UInt8) (cs : List Char) :
    percentDecode (percentByte b ++ cs) = b :: percentDecode cs := by
  simp only [percentByte, List.cons_append, List.nil_append, percentDecode, if_true,
    byteOfDigits?_upperHexDigit]

theorem percentDecode_percentBytes (bs : List UInt8) (cs : List Char) :
    percentDecode (bs.flatMap percentByte ++ cs) = bs ++ percentDecode cs := by
  induction bs with
  | nil => rfl
  | cons b bs ih =>
    rw [List.flatMap_cons, List.append_assoc, percentDecode_percentByte, ih, List.cons_append]

/-! ## 2. Characters -/

theorem percentDecode_cons_of_ne {c : Char} (h : c ≠ '%') (cs : List Char) :
    percentDecode (c :: cs) = utf8 [c] ++ percentDecode cs := by
  match cs with
  | [] => exact (List.append_nil _).symm
  | [d] => exact utf8_append [c] [d]
  | _ :: _ :: _ => rw [percentDecode, if_neg h]

/-- Nothing is decoded to nothing but nothing. -/
theorem percentDecode_ne_nil {cs : List Char} (h : cs ≠ []) : percentDecode cs ≠ [] := by
  have hutf8 : ∀ (c : Char) (ds : List Char), utf8 (c :: ds) ≠ [] := by
    intro c ds e
    have hempty : utf8 (c :: ds) = utf8 [] := e
    cases utf8_injective hempty
  match cs, h with
  | [c], _ => exact hutf8 c []
  | [c, d], _ => exact hutf8 c [d]
  | c :: a :: b :: cs, _ =>
    rw [percentDecode]
    split
    · split
      · exact List.cons_ne_nil _ _
      · exact List.append_ne_nil_of_left_ne_nil (hutf8 c []) _
    · exact List.append_ne_nil_of_left_ne_nil (hutf8 c []) _

section Encoding

variable {set : Char → Bool}

theorem percentDecode_encodeChar (hset : set '%' = true) (c : Char) (cs : List Char) :
    percentDecode (encodeChar set c ++ cs) = utf8 [c] ++ percentDecode cs := by
  unfold encodeChar
  by_cases h : set c = true
  · rw [if_pos h, percentDecode_percentBytes]
  · have hc : c ≠ '%' := fun e => h (e ▸ hset)
    rw [if_neg h, List.singleton_append, percentDecode_cons_of_ne hc]

/-- **What is encoded is decoded to the bytes of the characters**, if `%` itself is encoded. -/
theorem percentDecode_percentEncode (hset : set '%' = true) (cs : List Char) :
    percentDecode (percentEncode set cs) = utf8 cs := by
  induction cs with
  | nil => rfl
  | cons c cs ih =>
    rw [percentEncode, List.flatMap_cons, percentDecode_encodeChar hset, ← percentEncode, ih,
      ← utf8_append]
    rfl

/-- **What stands in an encoded text**: characters outside the set, percent signs and digits. -/
theorem mem_percentEncode {d : Char} {cs : List Char} (h : d ∈ percentEncode set cs) :
    (d ∈ cs ∧ set d = false) ∨ d = '%' ∨ ∃ n, d = upperHexDigit n := by
  obtain ⟨c, hc, hd⟩ := List.mem_flatMap.mp h
  unfold encodeChar at hd
  split at hd
  · obtain ⟨b, -, hb⟩ := List.mem_flatMap.mp hd
    simp only [percentByte, List.mem_cons, List.not_mem_nil, or_false] at hb
    rcases hb with rfl | rfl | rfl
    · exact .inr (.inl rfl)
    · exact .inr (.inr ⟨_, rfl⟩)
    · exact .inr (.inr ⟨_, rfl⟩)
  · rename_i hset
    rw [List.mem_singleton] at hd
    subst hd
    exact .inl ⟨hc, Bool.eq_false_iff.mpr hset⟩

/-- A character that is neither a percent sign nor a digit is in an encoded text only where it was
    and is not encoded. -/
theorem mem_of_mem_percentEncode {d : Char} {cs : List Char} (h : d ∈ percentEncode set cs)
    (hd : d ≠ '%') (hdigit : hexDigit? d = none) : d ∈ cs ∧ set d = false := by
  rcases mem_percentEncode h with h | rfl | ⟨n, rfl⟩
  · exact h
  · exact absurd rfl hd
  · rw [hexDigit?_upperHexDigit] at hdigit
    cases hdigit

end Encoding

end DaprHosting.Url
