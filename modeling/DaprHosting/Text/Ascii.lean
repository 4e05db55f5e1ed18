/-!
# ASCII digits and letters

Digits of a base, and equality that ignores the case of the letters `A` to `Z` and of no other
character. `Char.toLower` changes exactly those twenty-six letters.
-/

namespace DaprHosting.Text

/-! ## 1. Digits -/

/-- The value of a decimal digit. -/
def decimalDigit? (c : Char) : Option Nat :=
  if c.isDigit then some (c.toNat - '0'.toNat) else none

/-- The value of a hexadecimal digit of either case. -/
def hexDigit? (c : Char) : Option Nat :=
  if c.isDigit then some (c.toNat - '0'.toNat)
  else if 'a' ≤ c && c ≤ 'f' then some (c.toNat - 'a'.toNat + 10)
  else if 'A' ≤ c && c ≤ 'F' then some (c.toNat - 'A'.toNat + 10)
  else none

/-- The number that the digits write in the base, when every character is a digit of it. The empty
    list writes zero. -/
def numeral? (base : Nat) (cs : List Char) : Option Nat :=
  cs.foldl
    (fun total c => do
      let n ← total
      let d ← hexDigit? c
      if d < base then some (n * base + d) else none)
    (some 0)

/-- The decimal numeral of a number, without leading zeros. -/
def decimal (n : Nat) : List Char := Nat.toDigits 10 n

/-- The hexadecimal numeral of a number in lower case. -/
def hex (n : Nat) : List Char := Nat.toDigits 16 n

/-- A hexadecimal digit in upper case. -/
def upperHexDigit (n : Nat) : Char := (Nat.digitChar (n % 16)).toUpper

/-! ## 2. Case -/

/-- The characters with `A` to `Z` in lower case. -/
def lowerAscii (s : String) : String := String.ofList (s.toList.map Char.toLower)

/-- The text with its first character in upper case. -/
def capitalized (s : String) : String :=
  match s.toList with
  | [] => ""
  | c :: cs => String.ofList (c.toUpper :: cs)

/-- Equality up to the case of ASCII letters. -/
def sameIgnoringCase (a b : String) : Bool :=
  a.toList.map Char.toLower == b.toList.map Char.toLower

/-- A letter or digit of ASCII. -/
def isAsciiAlphanumeric (c : Char) : Bool := c.isAlpha || c.isDigit

/-! ## 3. Splitting -/

/-- The text before the first `c`, and what follows that `c` if there is one. -/
def cutAt (c : Char) : List Char → List Char × Option (List Char)
  | [] => ([], none)
  | x :: xs =>
    if x = c then ([], some xs)
    else (x :: (cutAt c xs).1, (cutAt c xs).2)

/-- The rest of a text after a fixed beginning. -/
def after? : List Char → List Char → Option (List Char)
  | [], cs => some cs
  | _ :: _, [] => none
  | p :: ps, c :: cs => if p = c then after? ps cs else none

theorem after?_append (ps cs : List Char) : after? ps (ps ++ cs) = some cs := by
  induction ps with
  | nil => rfl
  | cons p ps ih => simp [after?, ih]

theorem eq_append_of_after? {ps cs rest : List Char} (h : after? ps cs = some rest) :
    cs = ps ++ rest := by
  induction ps generalizing cs with
  | nil => simpa [after?] using h
  | cons p ps ih =>
    cases cs with
    | nil => simp [after?] at h
    | cons c cs =>
      simp only [after?] at h
      split at h
      · rename_i hpc
        subst hpc
        rw [ih h]
        rfl
      · cases h

/-- Without a `c` everything comes before the cut; with one, the cut takes out the first. -/
theorem cutAt_append {c : Char} {before : List Char} (rest : List Char) (h : c ∉ before) :
    cutAt c (before ++ c :: rest) = (before, some rest) := by
  induction before with
  | nil => simp [cutAt]
  | cons x xs ih =>
    have hx : x ≠ c := fun e => h (by simp [e])
    have hxs : c ∉ xs := fun e => h (List.mem_cons_of_mem _ e)
    simp [cutAt, hx, ih hxs]

theorem cutAt_of_notMem {c : Char} {cs : List Char} (h : c ∉ cs) : cutAt c cs = (cs, none) := by
  induction cs with
  | nil => rfl
  | cons x xs ih =>
    have hx : x ≠ c := fun e => h (by simp [e])
    simp [cutAt, hx, ih fun e => h (List.mem_cons_of_mem _ e)]

/-- **The cut is at the first `c`.** -/
theorem cutAt_eq_some_iff {c : Char} {cs before rest : List Char} :
    cutAt c cs = (before, some rest) ↔ cs = before ++ c :: rest ∧ c ∉ before := by
  constructor
  · intro h
    by_cases hc : c ∈ cs
    · obtain ⟨front, back, rfl, hfront⟩ := List.eq_append_cons_of_mem hc
      rw [cutAt_append back hfront] at h
      cases h
      exact ⟨rfl, hfront⟩
    · rw [cutAt_of_notMem hc] at h
      cases h
  · rintro ⟨rfl, h⟩
    exact cutAt_append rest h

theorem notMem_cutAt (c : Char) (cs : List Char) : c ∉ (cutAt c cs).1 := by
  by_cases hc : c ∈ cs
  · obtain ⟨front, back, rfl, hfront⟩ := List.eq_append_cons_of_mem hc
    rw [cutAt_append back hfront]
    exact hfront
  · rw [cutAt_of_notMem hc]
    exact hc

end DaprHosting.Text
