import DaprHosting.Proofs.Url.Percent
import DaprHosting.Url.Form

/-!
# Queries are read as they were written

A name or value that is form encoded holds no `&` and no `=`, and is decoded again, whatever its
characters are (`decode_encode`). So a pair that is written is one piece of its query and read as
this pair, and a query with a pair appended has the pairs it had, in their order, and that pair
behind them: `pairs_append`.
-/

namespace DaprHosting.Url.Form

open Text

/-! ## 1. Names and values -/

/-- A byte that stands for itself is a letter, a digit or one of four signs. -/
theorem bounds_of_keeps {b : UInt8} (h : keeps b = true) :
    0x2A ≤ b.toNat ∧ b.toNat < 0x80 ∧ b.toNat ≠ 0x2B ∧ b.toNat ≠ 0x3D := by
  simp only [keeps, Bool.or_eq_true, Bool.and_eq_true, decide_eq_true_eq, UInt8.le_iff_toNat_le,
    ← UInt8.toNat_inj, UInt8.reduceToNat] at h
  omega

theorem toNat_ofNat_of_ascii {n : Nat} (h : n < 0x80) : (Char.ofNat n).toNat = n := by
  have hvalid : n.isValidChar := .inl (by omega)
  rw [Char.ofNat, dif_pos hvalid]
  rfl

theorem ofNat_ne_of_toNat_ne {n : Nat} {c : Char} (hn : n < 0x80) (h : n ≠ c.toNat) :
    Char.ofNat n ≠ c := fun e => h (by rw [← e, toNat_ofNat_of_ascii hn])

theorem utf8_singleton_of_lt {b : UInt8} (h : b.toNat < 0x80) : utf8 [Char.ofNat b.toNat] = [b] := by
  have hval : (Char.ofNat b.toNat).val.toNat = b.toNat := toNat_ofNat_of_ascii h
  rw [utf8, List.flatMap_singleton, String.utf8EncodeChar, hval]
  exact (if_pos (Nat.le_of_lt_succ h)).trans (congrArg (fun b => [b]) UInt8.ofNat_toNat)

/-- A plus that is read stands for a space. -/
def unplus (c : Char) : Char := if c = '+' then ' ' else c

theorem map_unplus_percentByte (b : UInt8) : (percentByte b).map unplus = percentByte b := by
  have hdigit : ∀ n, unplus (upperHexDigit n) = upperHexDigit n := by
    intro n
    refine if_neg fun e => ?_
    have hsome := hexDigit?_upperHexDigit n
    rw [e] at hsome
    cases hsome
  simp only [percentByte, List.map_cons, List.map_nil, hdigit]
  rfl

theorem percentDecode_encodeByte (b : UInt8) (cs : List Char) :
    percentDecode ((encodeByte b).map unplus ++ cs) = b :: percentDecode cs := by
  unfold encodeByte
  by_cases hkeeps : keeps b = true
  · obtain ⟨hlow, hhigh, hplus, -⟩ := bounds_of_keeps hkeeps
    have hself : unplus (Char.ofNat b.toNat) = Char.ofNat b.toNat :=
      if_neg (ofNat_ne_of_toNat_ne (c := '+') hhigh hplus)
    have hpercent : Char.ofNat b.toNat ≠ '%' :=
      ofNat_ne_of_toNat_ne hhigh (Nat.ne_of_gt (Nat.lt_of_lt_of_le (by decide) hlow))
    rw [if_pos hkeeps, List.map_singleton, hself, List.singleton_append,
      percentDecode_cons_of_ne hpercent, utf8_singleton_of_lt hhigh]
    rfl
  by_cases hspace : b = 0x20
  · subst hspace
    exact percentDecode_cons_of_ne (by decide) cs
  · rw [if_neg hkeeps, if_neg hspace, map_unplus_percentByte, percentDecode_percentByte]

theorem percentDecode_encode (cs : List Char) : percentDecode ((encode cs).map unplus) = utf8 cs := by
  unfold encode
  induction utf8 cs with
  | nil => rfl
  | cons b bs ih =>
    rw [List.flatMap_cons, List.map_append, percentDecode_encodeByte, ih]

/-- **A name or value that is written is read again**, whatever its characters are. -/
theorem decode_encode (cs : List Char) : decode (encode cs) = String.ofList cs := by
  have h := percentDecode_encode cs
  unfold unplus at h
  rw [decode, h, ofUtf8Lossy_utf8]

/-- **The signs that set pairs and their parts off** stand in no name and no value. -/
theorem notMem_encode {d : Char} (hd : d = '&' ∨ d = '=') (cs : List Char) : d ∉ encode cs := by
  intro h
  obtain ⟨b, -, hb⟩ := List.mem_flatMap.mp h
  unfold encodeByte at hb
  split at hb
  · rename_i hkeeps
    obtain ⟨hlow, hhigh, -, heq⟩ := bounds_of_keeps hkeeps
    rw [List.mem_singleton] at hb
    have hne : b.toNat ≠ d.toNat := by
      rcases hd with rfl | rfl
      · exact Nat.ne_of_gt (Nat.lt_of_lt_of_le (by decide) hlow)
      · exact heq
    exact ofNat_ne_of_toNat_ne hhigh hne hb.symm
  split at hb
  · rcases hd with rfl | rfl <;> cases List.mem_singleton.mp hb
  · have hdigit : ∀ n, d ≠ upperHexDigit n := by
      rintro n rfl
      have hsome := hexDigit?_upperHexDigit n
      rcases hd with e | e <;> (rw [e] at hsome; cases hsome)
    simp only [percentByte, List.mem_cons, List.not_mem_nil, or_false, hdigit] at hb
    rcases hd with rfl | rfl <;> cases hb

/-! ## 2. Pairs -/

theorem decodePair_encodePair (name value : List Char) :
    decodePair (encodePair name value) = (String.ofList name, String.ofList value) := by
  rw [decodePair, encodePair, cutAt_append _ (notMem_encode (.inr rfl) name)]
  simp only [decode_encode]

/-- A pair that is written is read as this pair. -/
theorem pairs_encodePair (name value : List Char) :
    pairs (encodePair name value) = [(String.ofList name, String.ofList value)] := by
  have hnone : '&' ∉ encodePair name value := by
    intro h
    rcases List.mem_append.mp h with h | h
    · exact notMem_encode (.inl rfl) name h
    · rcases List.mem_cons.mp h with h | h
      · cases h
      · exact notMem_encode (.inl rfl) value h
  have hsome : (encodePair name value).isEmpty = false := by simp [encodePair]
  have hkeep : [encodePair name value].filter (fun piece => !piece.isEmpty) =
      [encodePair name value] :=
    List.filter_eq_self.mpr fun piece h => by rw [List.mem_singleton.mp h, hsome]; rfl
  rw [pairs, List.splitOn_eq_singleton hnone, hkeep, List.map_singleton, decodePair_encodePair]

/-- What an `&` sets off is read apart. -/
theorem pairs_cons (q p : List Char) : pairs (q ++ '&' :: p) = pairs q ++ pairs p := by
  rw [pairs, List.splitOn_append_cons_self, List.filter_append, List.map_append]
  rfl

/-- **A query keeps its pairs when one is appended**, and has this one behind them. A query that
    is not there has no pairs. -/
theorem pairs_append (query : Option (List Char)) (name value : List Char) :
    pairs (append query name value) =
      pairs (query.getD []) ++ [(String.ofList name, String.ofList value)] := by
  match query with
  | none => exact pairs_encodePair name value
  | some [] => exact pairs_encodePair name value
  | some (c :: cs) =>
    rw [append, pairs_cons, pairs_encodePair]
    · rfl
    · exact nofun

end DaprHosting.Url.Form
