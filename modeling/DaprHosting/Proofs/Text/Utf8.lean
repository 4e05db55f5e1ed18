import Mathlib.Data.List.Basic
import DaprHosting.Proofs.Lists
import DaprHosting.Text.Utf8

/-!
# Characters written as bytes are read again

The bytes of a character take the reader through the states that the first of them opens, and back
to the one where nothing is open (`decodeFrom_char`). So what characters are written as is read as
these characters, without a fault: `decode_utf8`. And bytes that are read without a fault begin with
those of a character (`exists_char`), so none but the bytes of a text are read as one:
`ofUtf8?_eq_some_iff`.
-/

namespace DaprHosting.Text

/-! ## 1. Single bytes -/

theorem firstByte_one {b : Nat} (h : b < 0x80) : firstByte b = ([some (Char.ofNat b)], .idle) :=
  if_pos h

theorem firstByte_two {b : Nat} (h : 0xC2 ≤ b) (h' : b < 0xE0) :
    firstByte b = ([], .open 1 0x80 0xBF (b - 0xC0)) := by
  unfold firstByte
  rw [if_neg (by omega), if_neg (by omega), if_pos h']

/-- The second byte of three is bounded so that the value is neither too small nor half of a pair. -/
theorem firstByte_three {b : Nat} (h : 0xE0 ≤ b) (h' : b < 0xF0) :
    firstByte b =
      ([], .open 2 (if b = 0xE0 then 0xA0 else 0x80) (if b = 0xED then 0x9F else 0xBF)
        (b - 0xE0)) := by
  unfold firstByte
  rw [if_neg (by omega), if_neg (by omega), if_neg (by omega)]
  by_cases h₀ : b = 0xE0
  · subst h₀
    rfl
  by_cases h₁ : b = 0xED
  · subst h₁
    rfl
  simp only [if_neg h₀, if_neg h₁, if_pos h']

/-- The second byte of four is bounded so that the value is neither too small nor too large. -/
theorem firstByte_four {b : Nat} (h : 0xF0 ≤ b) (h' : b ≤ 0xF4) :
    firstByte b =
      ([], .open 3 (if b = 0xF0 then 0x90 else 0x80) (if b = 0xF4 then 0x8F else 0xBF)
        (b - 0xF0)) := by
  unfold firstByte
  rw [if_neg (by omega), if_neg (by omega), if_neg (by omega), if_neg (by omega),
    if_neg (by omega), if_neg (by omega)]
  by_cases h₀ : b = 0xF0
  · subst h₀
    rfl
  by_cases h₁ : b = 0xF4
  · subst h₁
    rfl
  rw [if_neg h₀, if_pos (by omega), if_neg h₀, if_neg h₁]

section Continuation

variable {low high value b : Nat} (h : low ≤ b) (h' : b ≤ high)

include h h'

theorem nextByte_last :
    nextByte (.open 1 low high value) b =
      ([some (Char.ofNat (value * 64 + b % 64))], .idle) := by
  simp only [nextByte, if_pos (And.intro h h'), Nat.le_refl, if_true]

theorem nextByte_more (missing : Nat) :
    nextByte (.open (missing + 2) low high value) b =
      ([], .open (missing + 1) 0x80 0xBF (value * 64 + b % 64)) := by
  have hmore : ¬ missing + 2 ≤ 1 := by omega
  simp only [nextByte, if_pos (And.intro h h'), if_neg hmore]
  rfl

end Continuation

/-! ## 2. Characters -/

theorem decodeFrom_idle_cons (b : UInt8) (bs : List UInt8) :
    decodeFrom .idle (b :: bs) = (firstByte b.toNat).1 ++ decodeFrom (firstByte b.toNat).2 bs :=
  rfl

theorem decodeFrom_open_cons (missing low high value : Nat) (b : UInt8) (bs : List UInt8) :
    decodeFrom (.open missing low high value) (b :: bs) =
      (nextByte (.open missing low high value) b.toNat).1 ++
        decodeFrom (nextByte (.open missing low high value) b.toNat).2 bs :=
  rfl

theorem toNat_ofNat_of_lt {n : Nat} (h : n < 256) : (UInt8.ofNat n).toNat = n := by
  rw [UInt8.toNat_ofNat']
  exact Nat.mod_eq_of_lt h

section Lengths

variable {v : Nat} (bs : List UInt8)

theorem decodeFrom_one (h : v ≤ 0x7F) :
    decodeFrom .idle (UInt8.ofNat v :: bs) = some (Char.ofNat v) :: decodeFrom .idle bs := by
  rw [decodeFrom_idle_cons, toNat_ofNat_of_lt (by omega), firstByte_one (by omega)]
  rfl

theorem decodeFrom_two (h : 0x7F < v) (h' : v ≤ 0x7FF) :
    decodeFrom .idle (UInt8.ofNat (v / 64 % 32 + 192) :: UInt8.ofNat (v % 64 + 128) :: bs) =
      some (Char.ofNat v) :: decodeFrom .idle bs := by
  have hvalue : (v / 64 % 32 + 192 - 0xC0) * 64 + (v % 64 + 128) % 64 = v := by omega
  rw [decodeFrom_idle_cons, toNat_ofNat_of_lt (by omega), firstByte_two (by omega) (by omega),
    List.nil_append, decodeFrom_open_cons, toNat_ofNat_of_lt (by omega),
    nextByte_last (by omega) (by omega), hvalue]
  rfl

/-- Halves of pairs are no characters: their bytes are out of bounds. -/
theorem decodeFrom_three (h : 0x7FF < v) (h' : v ≤ 0xFFFF) (hv : v < 0xD800 ∨ 0xDFFF < v) :
    decodeFrom .idle (UInt8.ofNat (v / 4096 % 16 + 224) :: UInt8.ofNat (v / 64 % 64 + 128) ::
        UInt8.ofNat (v % 64 + 128) :: bs) =
      some (Char.ofNat v) :: decodeFrom .idle bs := by
  have hvalue : ((v / 4096 % 16 + 224 - 0xE0) * 64 + (v / 64 % 64 + 128) % 64) * 64 +
      (v % 64 + 128) % 64 = v := by omega
  rw [decodeFrom_idle_cons, toNat_ofNat_of_lt (by omega), firstByte_three (by omega) (by omega),
    List.nil_append, decodeFrom_open_cons, toNat_ofNat_of_lt (by omega),
    nextByte_more (by split <;> omega) (by split <;> omega) 0, List.nil_append,
    decodeFrom_open_cons, toNat_ofNat_of_lt (by omega), nextByte_last (by omega) (by omega),
    hvalue]
  rfl

theorem decodeFrom_four (h : 0xFFFF < v) (h' : v < 0x110000) :
    decodeFrom .idle (UInt8.ofNat (v / 262144 % 8 + 240) :: UInt8.ofNat (v / 4096 % 64 + 128) ::
        UInt8.ofNat (v / 64 % 64 + 128) :: UInt8.ofNat (v % 64 + 128) :: bs) =
      some (Char.ofNat v) :: decodeFrom .idle bs := by
  have hvalue : (((v / 262144 % 8 + 240 - 0xF0) * 64 + (v / 4096 % 64 + 128) % 64) * 64 +
      (v / 64 % 64 + 128) % 64) * 64 + (v % 64 + 128) % 64 = v := by omega
  rw [decodeFrom_idle_cons, toNat_ofNat_of_lt (by omega), firstByte_four (by omega) (by omega),
    List.nil_append, decodeFrom_open_cons, toNat_ofNat_of_lt (by omega),
    nextByte_more (by split <;> omega) (by split <;> omega) 1, List.nil_append,
    decodeFrom_open_cons, toNat_ofNat_of_lt (by omega), nextByte_more (by omega) (by omega) 0,
    List.nil_append, decodeFrom_open_cons, toNat_ofNat_of_lt (by omega),
    nextByte_last (by omega) (by omega), hvalue]
  rfl

end Lengths

/-- **The bytes of a character are read as this character**, whatever follows them. -/
theorem decodeFrom_char (c : Char) (bs : List UInt8) :
    decodeFrom .idle (String.utf8EncodeChar c ++ bs) = some c :: decodeFrom .idle bs := by
  have hvalid : c.val.toNat < 0xD800 ∨ 0xDFFF < c.val.toNat ∧ c.val.toNat < 0x110000 := c.valid
  have hself : Char.ofNat c.val.toNat = c := Char.ofNat_toNat c
  unfold String.utf8EncodeChar
  generalize c.val.toNat = v at hvalid hself
  by_cases h₁ : v ≤ 0x7F
  · simp only [if_pos h₁, List.cons_append, List.nil_append]
    rw [decodeFrom_one bs h₁, hself]
  by_cases h₂ : v ≤ 0x7FF
  · simp only [if_neg h₁, if_pos h₂, List.cons_append, List.nil_append]
    rw [decodeFrom_two bs (by omega) h₂, hself]
  by_cases h₃ : v ≤ 0xFFFF
  · simp only [if_neg h₁, if_neg h₂, if_pos h₃, List.cons_append, List.nil_append]
    rw [decodeFrom_three bs (by omega) h₃ (by omega), hself]
  · simp only [if_neg h₁, if_neg h₂, if_neg h₃, List.cons_append, List.nil_append]
    rw [decodeFrom_four bs (by omega) (by omega), hself]

/-! ## 3. Texts -/

/-- **What is written is read again**, without a fault. -/
theorem decode_utf8 (cs : List Char) : decode (utf8 cs) = cs.map some := by
  induction cs with
  | nil => rfl
  | cons c cs ih =>
    rw [utf8, List.flatMap_cons, decode, decodeFrom_char]
    exact congrArg (some c :: ·) ih

/-- Characters are known by their bytes. -/
theorem utf8_injective : Function.Injective utf8 := by
  intro cs ds h
  have hmap : cs.map some = ds.map some := by rw [← decode_utf8, ← decode_utf8, h]
  exact List.map_injective_iff.mpr (fun _ _ => Option.some.inj) hmap

theorem ofUtf8Lossy_utf8 (cs : List Char) : ofUtf8Lossy (utf8 cs) = String.ofList cs := by
  rw [ofUtf8Lossy, decode_utf8, List.map_map]
  exact congrArg String.ofList (List.map_id cs)

theorem utf8_append (cs ds : List Char) : utf8 (cs ++ ds) = utf8 cs ++ utf8 ds :=
  List.flatMap_append

/-! ## 4. Nothing else is a text -/

/-- The number is that of a character. -/
def IsCode (v : Nat) : Prop := v < 0xD800 ∨ 0xDFFF < v ∧ v < 0x110000

theorem toNat_ofNat_of_isCode {v : Nat} (h : IsCode v) : (Char.ofNat v).val.toNat = v := by
  have hvalid : v.isValidChar := h
  rw [Char.ofNat, dif_pos hvalid]
  rfl

section Encoding

variable {v : Nat}

theorem utf8EncodeChar_one (h : v ≤ 0x7F) :
    String.utf8EncodeChar (Char.ofNat v) = [UInt8.ofNat v] := by
  have hv := toNat_ofNat_of_isCode (.inl (by omega) : IsCode v)
  unfold String.utf8EncodeChar
  simp only [hv, if_pos h]

theorem utf8EncodeChar_two (h : 0x7F < v) (h' : v ≤ 0x7FF) :
    String.utf8EncodeChar (Char.ofNat v) =
      [UInt8.ofNat (v / 64 % 32 + 192), UInt8.ofNat (v % 64 + 128)] := by
  have hv := toNat_ofNat_of_isCode (.inl (by omega) : IsCode v)
  unfold String.utf8EncodeChar
  simp only [hv, if_neg (Nat.not_le.mpr h), if_pos h']

theorem utf8EncodeChar_three (h : 0x7FF < v) (h' : v ≤ 0xFFFF) (hcode : IsCode v) :
    String.utf8EncodeChar (Char.ofNat v) =
      [UInt8.ofNat (v / 4096 % 16 + 224), UInt8.ofNat (v / 64 % 64 + 128),
       UInt8.ofNat (v % 64 + 128)] := by
  have hv := toNat_ofNat_of_isCode hcode
  have hone : ¬ v ≤ 0x7F := by omega
  unfold String.utf8EncodeChar
  simp only [hv, if_neg hone, if_neg (Nat.not_le.mpr h), if_pos h']

theorem utf8EncodeChar_four (h : 0xFFFF < v) (hcode : IsCode v) :
    String.utf8EncodeChar (Char.ofNat v) =
      [UInt8.ofNat (v / 262144 % 8 + 240), UInt8.ofNat (v / 4096 % 64 + 128),
       UInt8.ofNat (v / 64 % 64 + 128), UInt8.ofNat (v % 64 + 128)] := by
  have hv := toNat_ofNat_of_isCode hcode
  have hone : ¬ v ≤ 0x7F := by omega
  have htwo : ¬ v ≤ 0x7FF := by omega
  unfold String.utf8EncodeChar
  simp only [hv, if_neg hone, if_neg htwo, if_neg (Nat.not_le.mpr h)]

end Encoding

/-- A byte is known by its number. -/
theorem eq_ofNat {b : UInt8} {n : Nat} (h : b.toNat = n) : b = UInt8.ofNat n := by
  rw [← h, UInt8.ofNat_toNat]

/-- **What is open goes on** with a byte in its range, if there is no fault. -/
theorem exists_next {missing low high value : Nat} {bs : List UInt8}
    (h : none ∉ decodeFrom (.open missing low high value) bs) :
    ∃ b r, bs = b :: r ∧ low ≤ b.toNat ∧ b.toNat ≤ high ∧
      none ∉ decodeFrom (nextByte (.open missing low high value) b.toNat).2 r := by
  cases bs with
  | nil => exact absurd (List.mem_singleton.mpr rfl) h
  | cons b r =>
    rw [decodeFrom_open_cons, List.mem_append, not_or] at h
    by_cases hrange : low ≤ b.toNat ∧ b.toNat ≤ high
    · exact ⟨b, r, rfl, hrange.1, hrange.2, h.2⟩
    · rw [nextByte, if_neg hrange] at h
      exact absurd (List.mem_cons_self ..) h.1

/-- **Bytes without a fault begin with those of a character.** -/
theorem exists_char {b : UInt8} {bs : List UInt8} (h : none ∉ decodeFrom .idle (b :: bs)) :
    ∃ c rest, b :: bs = String.utf8EncodeChar c ++ rest := by
  have hb := b.toNat_lt
  rw [decodeFrom_idle_cons, List.mem_append, not_or] at h
  obtain ⟨hfirst, hrest⟩ := h
  -- the cases are the lengths that the first byte announces
  by_cases h₁ : b.toNat < 0x80
  · refine ⟨Char.ofNat b.toNat, bs, ?_⟩
    rw [utf8EncodeChar_one (by omega), ← eq_ofNat rfl]
    rfl
  by_cases h₂ : b.toNat < 0xC2
  · rw [firstByte, if_neg h₁, if_pos h₂] at hfirst
    exact absurd (List.mem_singleton.mpr rfl) hfirst
  by_cases h₃ : b.toNat < 0xE0
  · rw [firstByte_two (by omega) h₃] at hrest
    obtain ⟨b₁, rest, rfl, hlow₁, hhigh₁, -⟩ := exists_next hrest
    refine ⟨Char.ofNat ((b.toNat - 0xC0) * 64 + b₁.toNat % 64), rest, ?_⟩
    rw [utf8EncodeChar_two (by omega) (by omega), ← eq_ofNat (by omega : b.toNat = _),
      ← eq_ofNat (by omega : b₁.toNat = _)]
    rfl
  by_cases h₄ : b.toNat < 0xF0
  · rw [firstByte_three (by omega) h₄] at hrest
    obtain ⟨b₁, bs, rfl, hlow₁, hhigh₁, hrest⟩ := exists_next hrest
    rw [nextByte_more hlow₁ hhigh₁ 0] at hrest
    obtain ⟨b₂, rest, rfl, hlow₂, hhigh₂, -⟩ := exists_next hrest
    have hlow : 0x80 ≤ b₁.toNat ∧ (b.toNat = 0xE0 → 0xA0 ≤ b₁.toNat) := by
      split at hlow₁ <;> omega
    have hhigh : b₁.toNat ≤ 0xBF ∧ (b.toNat = 0xED → b₁.toNat ≤ 0x9F) := by
      split at hhigh₁ <;> omega
    refine ⟨Char.ofNat (((b.toNat - 0xE0) * 64 + b₁.toNat % 64) * 64 + b₂.toNat % 64), rest, ?_⟩
    rw [utf8EncodeChar_three (by omega) (by omega) (by unfold IsCode; omega),
      ← eq_ofNat (by omega : b.toNat = _), ← eq_ofNat (by omega : b₁.toNat = _),
      ← eq_ofNat (by omega : b₂.toNat = _)]
    rfl
  by_cases h₅ : b.toNat ≤ 0xF4
  · rw [firstByte_four (by omega) h₅] at hrest
    obtain ⟨b₁, bs, rfl, hlow₁, hhigh₁, hrest⟩ := exists_next hrest
    rw [nextByte_more hlow₁ hhigh₁ 1] at hrest
    obtain ⟨b₂, bs, rfl, hlow₂, hhigh₂, hrest⟩ := exists_next hrest
    rw [nextByte_more hlow₂ hhigh₂ 0] at hrest
    obtain ⟨b₃, rest, rfl, hlow₃, hhigh₃, -⟩ := exists_next hrest
    have hlow : 0x80 ≤ b₁.toNat ∧ (b.toNat = 0xF0 → 0x90 ≤ b₁.toNat) := by
      split at hlow₁ <;> omega
    have hhigh : b₁.toNat ≤ 0xBF ∧ (b.toNat = 0xF4 → b₁.toNat ≤ 0x8F) := by
      split at hhigh₁ <;> omega
    refine ⟨Char.ofNat ((((b.toNat - 0xF0) * 64 + b₁.toNat % 64) * 64 + b₂.toNat % 64) * 64 +
      b₃.toNat % 64), rest, ?_⟩
    rw [utf8EncodeChar_four (by omega) (by unfold IsCode; omega),
      ← eq_ofNat (by omega : b.toNat = _), ← eq_ofNat (by omega : b₁.toNat = _),
      ← eq_ofNat (by omega : b₂.toNat = _), ← eq_ofNat (by omega : b₃.toNat = _)]
    rfl
  · have hfault : firstByte b.toNat = ([none], .idle) := by
      unfold firstByte
      rw [if_neg h₁, if_neg h₂, if_neg h₃, if_neg (by omega), if_neg (by omega), if_neg h₄,
        if_neg (by omega), if_neg (by omega), if_neg (by omega)]
    rw [hfault] at hfirst
    exact absurd (List.mem_singleton.mpr rfl) hfirst

/-- **Bytes without a fault are those of characters.** -/
theorem exists_utf8 {bs : List UInt8} (h : none ∉ decode bs) : ∃ cs, bs = utf8 cs := by
  induction hlen : bs.length using Nat.strongRecOn generalizing bs with
  | ind n ih =>
    cases bs with
    | nil => exact ⟨[], rfl⟩
    | cons b bs =>
      obtain ⟨c, rest, hbytes⟩ := exists_char h
      have hshort : rest.length < n := by
        rw [← hlen, hbytes, List.length_append, String.length_utf8EncodeChar]
        have hsize := c.utf8Size_pos
        omega
      rw [decode, hbytes, decodeFrom_char, List.mem_cons, not_or] at h
      obtain ⟨cs, hcs⟩ := ih rest.length hshort h.2 rfl
      exact ⟨c :: cs, by rw [hbytes, hcs, utf8, utf8, List.flatMap_cons]⟩

/-- **The bytes of a text, and no others, are read as it.** -/
theorem ofUtf8?_eq_some_iff {bs : List UInt8} {s : String} :
    ofUtf8? bs = some s ↔ bs = utf8 s.toList := by
  have hread : ∀ cs, (decode bs).mapM id = some cs ↔ decode bs = cs.map some := by
    intro cs
    rw [mapM_eq_some_iff, ← List.forall₂_eq_eq_eq, List.forall₂_map_right_iff]
    rfl
  rw [ofUtf8?, Option.map_eq_some_iff]
  simp only [hread]
  constructor
  · rintro ⟨cs, hcs, rfl⟩
    have hnone : none ∉ decode bs := by simp [hcs]
    obtain ⟨ds, rfl⟩ := exists_utf8 hnone
    rw [decode_utf8] at hcs
    rw [String.toList_ofList, List.map_injective_iff.mpr (fun _ _ => Option.some.inj) hcs]
  · rintro rfl
    exact ⟨s.toList, decode_utf8 _, String.ofList_toList⟩

end DaprHosting.Text
