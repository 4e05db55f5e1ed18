import DaprHosting.Proofs.Lists
import DaprHosting.Proofs.Text.Decimal
import DaprHosting.Toml.Reader

/-!
# Strings, keys and numbers are read as they were written

A quoted text is read as this text, whatever characters it has (`string?_quote`); a quoted text or a
bare name before its sign is read as a key of one part (`key?_of_isKey`); and a whole number is read
from its decimal text (`bare?_toString`), which no date can be taken for.
-/

namespace DaprHosting.Toml

/-! ## 1. Strings -/

/-- What is written for a character between quotes. -/
def escape (c : Char) : List Char :=
  if c = '"' ∨ c = '\\' then ['\\', c]
  else if isControl c then
    ['\\', 'u', '0', '0', Nat.digitChar (c.toNat / 16), Nat.digitChar (c.toNat % 16)]
  else [c]

/-- A text between quotes. -/
def quote (s : String) : List Char := '"' :: s.toList.flatMap escape ++ ['"']

theorem quote_append (s : String) (rest : List Char) :
    quote s ++ rest = '"' :: (s.toList.flatMap escape ++ '"' :: rest) := by
  simp [quote]

/-- Controls are characters of ASCII. -/
theorem lt_of_isControl {c : Char} (h : isControl c = true) : c.toNat < 128 := by
  simp only [isControl, Bool.or_eq_true, Bool.and_eq_true, decide_eq_true_eq, beq_iff_eq] at h
  omega

/-- A character of ASCII is read from its number in four digits. -/
theorem escape?_unit {c : Char} (h : c.toNat < 128) (cs : List Char) :
    escape? ('u' :: '0' :: '0' :: Nat.digitChar (c.toNat / 16) ::
      Nat.digitChar (c.toNat % 16) :: cs) = some (c, cs) := by
  have hnumeral : ∀ n < 128,
      Text.numeral? 16 ['0', '0', Nat.digitChar (n / 16), Nat.digitChar (n % 16)] = some n := by
    decide
  have hvalid : c.toNat.isValidChar := .inl (by omega)
  have hcoded : coded? 4 ('0' :: '0' :: Nat.digitChar (c.toNat / 16) ::
      Nat.digitChar (c.toNat % 16) :: cs) = some (c, cs) := by
    simp only [coded?, List.take_succ_cons, List.take_zero, hnumeral c.toNat h]
    simp [hvalid]
  exact hcoded

/-- **The escape of a character is read as this character.** -/
theorem basic_escape (c : Char) (fuel : Nat) (cs : List Char) :
    basic (fuel + 1) (escape c ++ cs) = (basic fuel cs).map fun p => (c :: p.1, p.2) := by
  unfold escape
  split
  · rename_i hsign
    have hread : escape? (c :: cs) = some (c, cs) := if_pos hsign
    rw [List.cons_append, List.cons_append, List.nil_append, basic]
    simp only [if_neg (by decide : ¬ '\\' = '"'), if_true, hread, Option.bind_eq_bind,
      Option.bind_some]
    cases basic fuel cs <;> rfl
  · split
    · rename_i hcontrol
      have hread := escape?_unit (lt_of_isControl hcontrol) cs
      simp only [List.cons_append, List.nil_append]
      rw [basic]
      simp only [if_neg (by decide : ¬ '\\' = '"'), if_true, hread, Option.bind_eq_bind,
        Option.bind_some]
      cases basic fuel cs <;> rfl
    · rename_i hsign hcontrol
      rw [not_or] at hsign
      rw [List.cons_append, List.nil_append, basic]
      simp only [if_neg hsign.1, if_neg hsign.2, if_neg hcontrol]
      cases basic fuel cs <;> rfl

theorem basic_written {cs : List Char} {fuel : Nat} (h : cs.length < fuel) (rest : List Char) :
    basic fuel (cs.flatMap escape ++ '"' :: rest) = some (cs, rest) := by
  induction cs generalizing fuel with
  | nil =>
    obtain ⟨f, rfl⟩ := Nat.exists_eq_add_of_le' h
    rfl
  | cons c cs ih =>
    obtain ⟨f, rfl⟩ := Nat.exists_eq_add_of_le' (Nat.lt_of_le_of_lt (Nat.zero_le _) h)
    rw [List.flatMap_cons, List.append_assoc, basic_escape, ih (Nat.lt_of_succ_lt_succ h)]
    rfl

/-- No escape is empty, or starts with the quote that ends a string. -/
theorem escape_eq_cons (c : Char) : ∃ x xs, escape c = x :: xs ∧ x ≠ '"' := by
  unfold escape
  split
  · exact ⟨_, _, rfl, by decide⟩
  · split
    · exact ⟨_, _, rfl, by decide⟩
    · rename_i hsign _
      exact ⟨_, _, rfl, fun e => hsign (.inl e)⟩

theorem length_le_flatMap_escape (cs : List Char) : cs.length ≤ (cs.flatMap escape).length := by
  induction cs with
  | nil => exact Nat.le_refl _
  | cons c cs ih =>
    obtain ⟨x, xs, hx, -⟩ := escape_eq_cons c
    rw [List.flatMap_cons, hx, List.length_append, List.length_cons, List.length_cons]
    omega

theorem shortString?_quote (s : String) (rest : List Char) :
    shortString? (quote s ++ rest) = some (s.toList, rest) := by
  have hlen := length_le_flatMap_escape s.toList
  rw [quote_append, shortString?]
  refine basic_written ?_ rest
  rw [List.length_append]
  omega

/-- **A quoted text is read as this text**, if no third quote follows the two of an empty one. -/
theorem string?_quote (s : String) (rest : List Char) (h : rest.head? ≠ some '"') :
    string? (quote s ++ rest) = some (s.toList, rest) := by
  have hthree : Text.after? ['"', '"', '"'] (quote s ++ rest) = none := by
    rw [quote_append]
    cases hs : s.toList with
    | nil =>
      cases rest with
      | nil => rfl
      | cons c rest =>
        have hc : '"' ≠ c := fun e => h (congrArg some e.symm)
        simp [Text.after?, hc]
    | cons c cs =>
      obtain ⟨x, xs, hx, hquote⟩ := escape_eq_cons c
      simp [Text.after?, hx, hquote.symm]
  have hsingle : Text.after? ['\'', '\'', '\''] (quote s ++ rest) = none := by
    rw [quote_append]
    rfl
  rw [string?, hthree, hsingle]
  exact shortString?_quote s rest

/-! ## 2. Keys -/

/-- **The text is a key**: one part, before the sign that ends it. -/
structure IsKey (cs : List Char) (k : String) : Prop where
  begins : ∃ c r, cs = c :: r ∧ (c = '"' ∨ isKeyChar c = true)
  read : ∀ e rest, e = '=' ∨ e = ']' → simpleKey? (cs ++ e :: rest) = some (k, e :: rest)

theorem isKey_quote (k : String) : IsKey (quote k) k where
  begins := ⟨_, _, rfl, .inl rfl⟩
  read e rest _ := by
    rw [simpleKey?, shortString?_quote]
    simp only [String.ofList_toList]

/-- A name of letters, digits and dashes needs no quotes. -/
theorem isKey_bare {name : String} (hne : name ≠ "")
    (h : ∀ c ∈ name.toList, isKeyChar c = true) : IsKey name.toList name := by
  obtain ⟨c, r, hname⟩ := List.exists_cons_of_ne_nil (mt String.toList_eq_nil_iff.mp hne)
  have hc : isKeyChar c = true := h c (by rw [hname]; exact List.mem_cons_self ..)
  refine ⟨⟨c, r, hname, .inr hc⟩, fun e rest he => ?_⟩
  have hshort : shortString? (name.toList ++ e :: rest) = none := by
    rw [hname, List.cons_append, shortString?.eq_def]
    split
    · rename_i e'
      cases e'
      cases hc
    · rename_i e'
      cases e'
      cases hc
    · rfl
  have hend : ∀ c, (e :: rest).head? = some c → isKeyChar c = false := by
    rintro _ ⟨⟩
    rcases he with rfl | rfl <;> decide
  have htake : (name.toList ++ e :: rest).takeWhile isKeyChar = name.toList :=
    takeWhile_append_of_head h hend
  rw [simpleKey?, hshort]
  dsimp only
  rw [htake]
  split
  · rename_i hnil
    rw [hname] at hnil
    cases hnil
  · rw [List.drop_left, String.ofList_toList]

/-- What is written for a key: the name as it is where it can stand so, else the name in quotes. -/
def keyText (k : String) : List Char :=
  if k ≠ "" ∧ k.toList.all isKeyChar = true then k.toList else quote k

theorem isKey_keyText (k : String) : IsKey (keyText k) k := by
  unfold keyText
  split
  · rename_i h
    exact isKey_bare h.1 (List.all_eq_true.mp h.2)
  · exact isKey_quote k

/-- **A key of one part is read whole.** -/
theorem key?_of_isKey {cs : List Char} {k : String} (h : IsKey cs k) {e : Char}
    (he : e = '=' ∨ e = ']') (rest : List Char) :
    key? (cs ++ e :: rest) = some ([k], e :: rest) := by
  rw [key?, keyParts, h.read e rest he]
  rcases he with rfl | rfl <;> rfl

/-- A key starts with none of the other signs. -/
theorem ne_of_begins {c d : Char} (hc : c = '"' ∨ isKeyChar c = true)
    (hd : d ≠ '"' ∧ isKeyChar d = false) : c ≠ d := by
  rintro rfl
  rcases hc with rfl | hc
  · exact hd.1 rfl
  · rw [hd.2] at hc
    cases hc

theorem isSpace_of_begins {c : Char} (hc : c = '"' ∨ isKeyChar c = true) : isSpace c = false := by
  have hspace : c ≠ ' ' := ne_of_begins hc (by decide)
  have htab : c ≠ '\t' := ne_of_begins hc (by decide)
  simp [isSpace, hspace, htab]

/-! ## 3. Bare values -/

/-- What stands behind a value that has ended: no character of a bare one, and no quote. -/
def Ends (rest : List Char) : Prop :=
  ∀ c, rest.head? = some c → isBareChar c = false ∧ c ≠ '"'

theorem ends_cons {c : Char} (h : isBareChar c = false ∧ c ≠ '"') (cs : List Char) :
    Ends (c :: cs) := by
  rintro _ ⟨⟩
  exact h

/-- A bare value that starts no date is taken up to its end. -/
theorem takeBare_append {cs rest : List Char} (hcs : ∀ c ∈ cs, isBareChar c = true)
    (hdate : date? cs = none) (h : Ends rest) : takeBare (cs ++ rest) = (cs, rest) := by
  have htake : (cs ++ rest).takeWhile isBareChar = cs :=
    takeWhile_append_of_head hcs fun c hc => (h c hc).1
  simp only [takeBare, htake, List.drop_left, hdate]
  rfl

section Numbers

variable {cs : List Char}

theorem isBareChar_of_isDigit {c : Char} (h : c.isDigit = true) : isBareChar c = true := by
  simp [isBareChar, Text.isAsciiAlphanumeric, h]

/-- A text without the sign of a split is one piece. -/
theorem splitOn_of_notMem {a : Char} (h : a ∉ cs) : cs.splitOn a = [cs] := by
  refine List.splitOnP_eq_singleton fun c hc => ?_
  rw [beq_eq_false_iff_ne]
  rintro rfl
  exact h hc

theorem notMem_decimal {a : Char} (h : a.isDigit = false) (n : Nat) : a ∉ Text.decimal n := by
  intro ha
  rw [Text.isDigit_of_mem_decimal ha] at h
  cases h

/-- A numeral without leading zeros is taken as it is. -/
theorem plain?_decimal (n : Nat) : plain? (Text.decimal n) = some (Text.decimal n) := by
  have hgroups : grouped? Char.isDigit (Text.decimal n) = some (Text.decimal n) := by
    have hdigits : (Text.decimal n).all Char.isDigit = true :=
      List.all_eq_true.mpr fun c hc => Text.isDigit_of_mem_decimal hc
    simp [grouped?, splitOn_of_notMem (notMem_decimal (by decide : '_'.isDigit = false) n),
      Text.decimal_ne_nil n, hdigits]
  rw [plain?, hgroups, Option.bind_some, if_neg]
  rintro ⟨hzero, hne⟩
  exact hne (Text.decimal_of_head? hzero)

theorem toList_toString_ofNat (n : Nat) : (toString (n : Int)).toList = Text.decimal n :=
  Nat.toList_repr

theorem toList_toString_negSucc (n : Nat) :
    (toString (Int.negSucc n)).toList = '-' :: Text.decimal (n + 1) := by
  have htext : toString (Int.negSucc n) = "-" ++ Nat.repr (n + 1) := rfl
  rw [htext, String.toList_append, Nat.toList_repr]
  rfl

/-- A whole number is written with digits, and perhaps a sign in front. -/
theorem of_mem_toString {n : Int} {c : Char} (h : c ∈ (toString n).toList) :
    c = '-' ∨ c.isDigit = true := by
  cases n with
  | ofNat n =>
    rw [Int.ofNat_eq_natCast, toList_toString_ofNat] at h
    exact .inr (Text.isDigit_of_mem_decimal h)
  | negSucc n =>
    rw [toList_toString_negSucc] at h
    exact (List.mem_cons.mp h).imp id Text.isDigit_of_mem_decimal

theorem signed_toString (n : Int) :
    ∃ sign m, signed (toString n).toList = (sign, Text.decimal m) ∧
      (if (sign == some true) = true then -(m : Int) else m) = n := by
  cases n with
  | ofNat n =>
    rw [Int.ofNat_eq_natCast, toList_toString_ofNat]
    refine ⟨none, n, ?_, rfl⟩
    rw [signed.eq_def]
    split
    · rename_i h
      exact absurd (h ▸ List.mem_cons_self ..) (notMem_decimal (by decide : '-'.isDigit = false) n)
    · rename_i h
      exact absurd (h ▸ List.mem_cons_self ..) (notMem_decimal (by decide : '+'.isDigit = false) n)
    · rfl
  | negSucc n =>
    rw [toList_toString_negSucc]
    exact ⟨some true, n + 1, rfl, rfl⟩

/-- A number has too few dashes for a date. -/
theorem date?_toString (n : Int) : date? (toString n).toList = none := by
  have hdash : ∀ m, (Text.decimal m).splitOn '-' = [Text.decimal m] :=
    fun m => splitOn_of_notMem (notMem_decimal (by decide) m)
  cases n with
  | ofNat n =>
    rw [Int.ofNat_eq_natCast, toList_toString_ofNat, date?, hdash]
  | negSucc n =>
    have hsplit : ('-' :: Text.decimal (n + 1)).splitOn '-' = [[], Text.decimal (n + 1)] := by
      rw [List.splitOn_cons_eq_if_modifyHead, if_pos (by decide), hdash]
    rw [toList_toString_negSucc, date?, hsplit]

/-- No other character stands in a number. -/
theorem notMem_toString {n : Int} {c : Char} (hdash : c ≠ '-') (hdigit : c.isDigit = false) :
    c ∉ (toString n).toList := by
  intro hc
  rcases of_mem_toString hc with rfl | h
  · exact hdash rfl
  · rw [hdigit] at h
    cases h

theorem number?_toString (n : Int) : number? (toString n).toList = some (ofInteger n) := by
  have hnot : ∀ {c z : Char} {cs : List Char}, c ≠ '-' → c.isDigit = false →
      (toString n).toList ≠ z :: c :: cs :=
    fun hdash hdigit h =>
      notMem_toString hdash hdigit (h ▸ List.mem_cons_of_mem _ (List.mem_cons_self ..))
  obtain ⟨sign, m, hsign, hn⟩ := signed_toString n
  have hbody : ∀ {c : Char} {cs : List Char}, c.isDigit = false → Text.decimal m ≠ c :: cs :=
    fun hdigit h => notMem_decimal hdigit m (h ▸ List.mem_cons_self ..)
  unfold number?
  split
  · rename_i h
    exact absurd h (hnot (by decide) (by decide))
  · rename_i h
    exact absurd h (hnot (by decide) (by decide))
  · rename_i h
    exact absurd h (hnot (by decide) (by decide))
  · rw [hsign]
    dsimp only
    rw [if_neg (hbody (by decide)), if_neg (hbody (by decide)), plain?_decimal]
    dsimp only
    rw [Text.numeral?_decimal]
    exact congrArg (fun k => some (ofInteger k)) hn

/-- **A whole number is read as it was written**, as far as 64 bits hold it with or without a
    sign. -/
theorem bare?_toString {n : Int} (hlow : -(Word.maxSigned64 : Int) - 1 ≤ n)
    (hhigh : n ≤ Word.max64) : bare? (toString n).toList = some (.integer n) := by
  have hname : ∀ {c : Char} {cs : List Char}, c ≠ '-' → c.isDigit = false →
      (toString n).toList ≠ c :: cs :=
    fun hdash hdigit h => notMem_toString hdash hdigit (h ▸ List.mem_cons_self ..)
  rw [bare?, if_neg (hname (by decide) (by decide)), if_neg (hname (by decide) (by decide)),
    number?_toString, ofInteger, if_pos ⟨hlow, hhigh⟩]

end Numbers

end DaprHosting.Toml
