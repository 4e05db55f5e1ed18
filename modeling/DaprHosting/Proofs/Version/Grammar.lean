import DaprHosting.Proofs.Lists
import DaprHosting.Proofs.Version.Spelling

/-!
# The grammar of versions

What a version is written as, said apart from the reader: three numerals with points between them,
then the identifiers of a pre-release behind a hyphen, and those of the build behind a plus. A
number has no leading zeros and fits 64 bits; in a pre-release an identifier of digits has no
leading zeros either. The reader of the full form takes just these texts
(`ofChars?_eq_some_iff`).
-/

namespace DaprHosting.Version

open Text (decimal cutAt cutAt_append cutAt_of_notMem)

/-! ## 1. The grammar -/

/-- **The numeral of a number** of 64 bits: its digits without leading zeros. -/
def Numeral (cs : List Char) (n : Nat) : Prop := cs = decimal n ∧ n ≤ Word.max64

instance (cs : List Char) (n : Nat) : Decidable (Numeral cs n) :=
  inferInstanceAs (Decidable (_ ∧ _))

/-- **What an identifier is written as**: digits alone are a number, all else that letters, digits
    and hyphens make is a word. -/
inductive Identifier.Written : List Char → Identifier → Prop where
  | number {cs : List Char} (hne : cs ≠ []) (h : ∀ c ∈ cs, c.isDigit = true) :
      Written cs (.number (Nat.ofDigitChars 10 cs 0) cs.length)
  | word {cs : List Char} (h : ∀ c ∈ cs, isIdentifierChar c = true)
      (hword : ∃ c ∈ cs, c.isDigit = false) : Written cs (.word cs)

/-- **In a pre-release** a number has no leading zero. -/
def Identifier.WrittenUnpadded (cs : List Char) (i : Identifier) : Prop :=
  Written cs i ∧ ((∀ c ∈ cs, c.isDigit = true) → cs.head? = some '0' → cs = ['0'])

/-- Identifiers with points between them, behind a mark; nothing when there are none. -/
def marked (mark : Char) : List (List Char) → List Char
  | [] => []
  | w :: ws => mark :: ['.'].intercalate (w :: ws)

/-- **The full form of a version**: `MAJOR.MINOR.PATCH`, then `-` and a pre-release, then `+` and
    build metadata. -/
inductive FullForm : List Char → Version → Prop where
  | parts {a b c : List Char} {pre build : List (List Char)} {v : Version}
      (major : Numeral a v.major) (minor : Numeral b v.minor) (patch : Numeral c v.patch)
      (preRelease : List.Forall₂ Identifier.WrittenUnpadded pre v.pre)
      (metadata : List.Forall₂ Identifier.Written build v.build) :
      FullForm (['.'].intercalate [a, b, c] ++ marked '-' pre ++ marked '+' build) v

/-- **The short form**: `MAJOR.MINOR`, of the version that has no patch, no pre-release and no
    build. -/
inductive ShortForm : List Char → Version → Prop where
  | parts {a b : List Char} {m n : Nat} (major : Numeral a m) (minor : Numeral b n) :
      ShortForm (['.'].intercalate [a, b]) ⟨m, n, 0, [], []⟩

/-! ## 2. Identifiers -/

theorem isIdentifierChar_of_isDigit {c : Char} (h : c.isDigit = true) :
    isIdentifierChar c = true := by
  simp [isIdentifierChar, Text.isAsciiAlphanumeric, h]

theorem Identifier.Written.chars {cs : List Char} {i : Identifier} (h : Written cs i) :
    ∀ c ∈ cs, isIdentifierChar c = true := by
  cases h with
  | number hne h => exact fun c hc => isIdentifierChar_of_isDigit (h c hc)
  | word h hword => exact h

theorem Identifier.Written.nonempty {cs : List Char} {i : Identifier} (h : Written cs i) :
    cs ≠ [] := by
  cases h with
  | number hne h => exact hne
  | word h hword =>
    obtain ⟨c, hc, -⟩ := hword
    exact List.ne_nil_of_mem hc

/-- **The reader of identifiers takes what they are written as.** -/
theorem buildIdentifier?_eq_some_iff {cs : List Char} {i : Identifier} :
    buildIdentifier? cs = some i ↔ Identifier.Written cs i := by
  unfold buildIdentifier?
  split
  · rename_i hbad
    refine iff_of_false nofun fun h => ?_
    rcases hbad with hempty | hchars
    · exact h.nonempty hempty
    · exact hchars (List.all_eq_true.mpr h.chars)
  rename_i hgood
  rw [not_or, Classical.not_not, List.all_eq_true] at hgood
  obtain ⟨hne, hchars⟩ := hgood
  split
  · rename_i hdigits
    rw [List.all_eq_true] at hdigits
    rw [Text.numeral?_eq_ofDigitChars hdigits, Option.map_some, Option.some.injEq]
    constructor
    · rintro rfl
      exact .number hne hdigits
    · intro h
      cases h with
      | number => rfl
      | word h hword =>
        obtain ⟨c, hc, hword⟩ := hword
        rw [hdigits c hc] at hword
        cases hword
  · rename_i hword
    rw [List.all_eq_true] at hword
    rw [Option.some.injEq]
    constructor
    · rintro rfl
      refine .word hchars ?_
      simpa using hword
    · intro h
      cases h with
      | number hne h => exact absurd h hword
      | word => rfl

theorem preIdentifier?_eq_some_iff {cs : List Char} {i : Identifier} :
    preIdentifier? cs = some i ↔ Identifier.WrittenUnpadded cs i := by
  unfold preIdentifier? Identifier.WrittenUnpadded
  rw [← buildIdentifier?_eq_some_iff, ← List.all_eq_true]
  split
  · rename_i hpadded
    exact iff_of_false nofun fun h => hpadded.2.2 (h.2 hpadded.1 hpadded.2.1)
  · rename_i hplain
    refine ⟨fun h => ⟨h, fun hdigits hzero => ?_⟩, fun h => h.1⟩
    exact Classical.byContradiction fun hne => hplain ⟨hdigits, hzero, hne⟩

/-! ## 3. Parts -/

/-- The text that identifiers make; without any there is none. -/
def joined : List (List Char) → Option (List Char)
  | [] => none
  | w :: ws => some (['.'].intercalate (w :: ws))

theorem behind_joined (mark : Char) (ws : List (List Char)) :
    behind mark (joined ws) = marked mark ws := by
  cases ws <;> rfl

/-- The cut at a mark gives the part behind it back. -/
theorem cutAt_marked {mark : Char} {front : List Char} (h : mark ∉ front)
    (ws : List (List Char)) : cutAt mark (front ++ marked mark ws) = (front, joined ws) := by
  cases ws with
  | nil => rw [marked, List.append_nil, cutAt_of_notMem h, joined]
  | cons w ws => rw [marked, cutAt_append _ h, joined]

theorem mem_intercalate {c d : Char} {ws : List (List Char)} (h : c ∈ [d].intercalate ws) :
    c = d ∨ ∃ w ∈ ws, c ∈ w := by
  induction ws with
  | nil => cases h
  | cons w ws ih =>
    cases ws with
    | nil =>
      rw [List.intercalate_singleton] at h
      exact .inr ⟨w, List.mem_singleton_self w, h⟩
    | cons w' ws =>
      rw [List.intercalate_cons_cons, List.mem_append, List.mem_append, List.mem_singleton] at h
      rcases h with (h | h) | h
      · exact .inr ⟨w, .head _, h⟩
      · exact .inl h
      · rcases ih h with h | ⟨x, hx, h⟩
        · exact .inl h
        · exact .inr ⟨x, .tail _ hx, h⟩

section Identifiers

variable {read : List Char → Option Identifier} {written : List Char → Identifier → Prop}
  (hchars : ∀ {cs : List Char} {i : Identifier}, written cs i → ∀ c ∈ cs, isIdentifierChar c = true)

include hchars

theorem chars_of_written {ws : List (List Char)} {is : List Identifier}
    (h : List.Forall₂ written ws is) : ∀ w ∈ ws, ∀ c ∈ w, isIdentifierChar c = true := by
  induction h with
  | nil => exact fun w hw => absurd hw List.not_mem_nil
  | cons hw _ ih => exact List.forall_mem_cons.mpr ⟨hchars hw, ih⟩

/-- **What stands in a part**: its mark, points, and the characters of identifiers. -/
theorem of_mem_marked {ws : List (List Char)} {is : List Identifier}
    (h : List.Forall₂ written ws is) {mark c : Char} (hc : c ∈ marked mark ws) :
    c = mark ∨ c = '.' ∨ isIdentifierChar c = true := by
  have hwords := chars_of_written hchars h
  cases ws with
  | nil => cases hc
  | cons w ws =>
    refine (List.mem_cons.mp hc).imp_right fun hc => (mem_intercalate hc).imp_right ?_
    rintro ⟨x, hx, hc⟩
    exact hwords x hx c hc

/-- **A part is read as its identifiers.** -/
theorem identifiers?_eq_some_iff
    (hread : ∀ {cs : List Char} {i : Identifier}, read cs = some i ↔ written cs i)
    {part : Option (List Char)} {is : List Identifier} :
    identifiers? read part = some is ↔ ∃ ws, part = joined ws ∧ List.Forall₂ written ws is := by
  have hlist : ∀ {ws : List (List Char)},
      ws.mapM read = some is ↔ List.Forall₂ written ws is := by
    intro ws
    simp only [mapM_eq_some_iff, hread]
  constructor
  · intro h
    cases part with
    | none =>
      cases h
      exact ⟨[], rfl, .nil⟩
    | some cs =>
      obtain ⟨w, ws, hws⟩ := List.exists_cons_of_ne_nil (List.splitOn_ne_nil '.' cs)
      refine ⟨cs.splitOn '.', ?_, hlist.mp h⟩
      rw [hws, joined, ← hws, List.intercalate_splitOn]
  · rintro ⟨ws, rfl, h⟩
    cases ws with
    | nil =>
      cases h
      rfl
    | cons w ws =>
      have hpoint : ∀ x ∈ w :: ws, '.' ∉ x :=
        fun x hx hmem => absurd (chars_of_written hchars h x hx '.' hmem) (by decide)
      rw [joined, identifiers?, List.splitOn_intercalate '.' hpoint (List.cons_ne_nil _ _)]
      exact hlist.mpr h

end Identifiers

/-! ## 4. The full form -/

theorem Numeral.isDigit {cs : List Char} {n : Nat} (h : Numeral cs n) :
    ∀ c ∈ cs, c.isDigit = true := by
  rw [h.1]
  exact fun c => Text.isDigit_of_mem_decimal

theorem Numeral.cons {w : List Char} {n : Nat} (h : Numeral w n) {ws : List (List Char)}
    (hs : ∀ u ∈ ws, ∃ n, Numeral u n) : ∀ u ∈ w :: ws, ∃ n, Numeral u n :=
  List.forall_mem_cons.mpr ⟨⟨n, h⟩, hs⟩

section Numerals

variable {ws : List (List Char)} (h : ∀ w ∈ ws, ∃ n, Numeral w n)

include h

/-- **Numerals with points between them** have no other characters. -/
theorem of_mem_numerals {c : Char} (hc : c ∈ ['.'].intercalate ws) :
    c = '.' ∨ c.isDigit = true := by
  refine (mem_intercalate hc).imp_right ?_
  rintro ⟨w, hw, hc⟩
  obtain ⟨n, hn⟩ := h w hw
  exact hn.isDigit c hc

theorem notMem_numerals {c : Char} (hpoint : c ≠ '.') (hdigit : c.isDigit = false) :
    c ∉ ['.'].intercalate ws := by
  intro hc
  rcases of_mem_numerals h hc with e | e
  · exact hpoint e
  · rw [hdigit] at e
    cases e

theorem splitOn_numerals (hne : ws ≠ []) : (['.'].intercalate ws).splitOn '.' = ws := by
  refine List.splitOn_intercalate '.' (fun w hw hpoint => ?_) hne
  obtain ⟨n, hn⟩ := h w hw
  cases hn.isDigit '.' hpoint

end Numerals

/-- **The reader takes just the texts of the full form.** -/
theorem ofChars?_eq_some_iff {cs : List Char} {v : Version} :
    ofChars? cs = some v ↔ FullForm cs v := by
  have hpreRead : ∀ {part is}, identifiers? preIdentifier? part = some is ↔
      ∃ ws, part = joined ws ∧ List.Forall₂ Identifier.WrittenUnpadded ws is :=
    identifiers?_eq_some_iff (fun h => h.1.chars) preIdentifier?_eq_some_iff
  have hbuildRead : ∀ {part is}, identifiers? buildIdentifier? part = some is ↔
      ∃ ws, part = joined ws ∧ List.Forall₂ Identifier.Written ws is :=
    identifiers?_eq_some_iff (fun h => h.chars) buildIdentifier?_eq_some_iff
  constructor
  · intro h
    obtain ⟨a, b, c, pre, build, rfl, hmajor, hminor, hpatch, hpre, hbuild⟩ := parts_of_ofChars h
    obtain ⟨ws, rfl, hws⟩ := hpreRead.mp hpre
    obtain ⟨xs, rfl, hxs⟩ := hbuildRead.mp hbuild
    rw [behind_joined, behind_joined]
    exact .parts (numeral?_eq_some_iff.mp hmajor) (numeral?_eq_some_iff.mp hminor)
      (numeral?_eq_some_iff.mp hpatch) hws hxs
  · intro h
    cases h with
    | @parts a b c pre build v hmajor hminor hpatch hpre hbuild =>
      have hnumerals : ∀ w ∈ [a, b, c], ∃ n, Numeral w n :=
        hmajor.cons (hminor.cons (hpatch.cons nofun))
      have hplus : '+' ∉ ['.'].intercalate [a, b, c] ++ marked '-' pre := by
        rw [List.mem_append, not_or]
        refine ⟨notMem_numerals hnumerals (by decide) (by decide), fun hmem => ?_⟩
        exact absurd (of_mem_marked (fun h => h.1.chars) hpre hmem) (by decide)
      have hhyphen : '-' ∉ ['.'].intercalate [a, b, c] :=
        notMem_numerals hnumerals (by decide) (by decide)
      refine (ofChars?_eq_some_iff_parts (cutAt_marked hplus build)
        (cutAt_marked hhyphen pre)).mpr ⟨a, b, c, splitOn_numerals hnumerals nofun, ?_⟩
      exact ⟨numeral?_eq_some_iff.mpr hmajor, numeral?_eq_some_iff.mpr hminor,
        numeral?_eq_some_iff.mpr hpatch, hpreRead.mpr ⟨pre, rfl, hpre⟩,
        hbuildRead.mpr ⟨build, rfl, hbuild⟩⟩

end DaprHosting.Version
