/-!
# Doubles as exact values

A double is a sign, a mantissa below `2^53` and a power of two, an infinity or not a number. This
file fixes which double a rational reads as (the nearest, a tie to the even mantissa), and the two
roundings a number of a JSON document passes through. Everything is computed on natural numbers,
so a double is an ordinary value with decidable equality.
-/

namespace DaprHosting.Decimal

/-! ## 1. The type -/

/-- A double. A finite one is `± mantissa · 2^exponent`; the functions of this file build it with
    the least exponent that keeps `2^52 ≤ mantissa`, or with exponent `-1074`. -/
inductive Binary64 where
  | finite (negative : Bool) (mantissa : Nat) (exponent : Int)
  | infinite (negative : Bool)
  | nan
deriving DecidableEq, Repr, Inhabited

namespace Binary64

/-- The least mantissa of 53 bits, two to the power of 52. -/
def leadingBit : Nat := 4503599627370496

/-- The least exponent of a double. -/
def minExponent : Int := -1074

/-- The greatest exponent of a double. -/
def maxExponent : Int := 971

/-- Zero with a sign. -/
def zero (negative : Bool) : Binary64 := .finite negative 0 minExponent

/-- No infinity and not the absence of a number. -/
def isFinite : Binary64 → Bool
  | .finite .. => true
  | _ => false

/-- The same value on the other side of zero. -/
def negate : Binary64 → Binary64
  | .finite s m q => .finite (!s) m q
  | .infinite s => .infinite (!s)
  | .nan => .nan

/-! ## 2. Rounding a rational -/

/-- The quotient rounded to the nearest natural number, a half to the even one. -/
def divToEven (n d : Nat) : Nat :=
  let q := n / d
  let r := n % d
  if 2 * r < d then q else if d < 2 * r then q + 1 else if q % 2 = 0 then q else q + 1

/-- Numerator and denominator of `num / den / 2^q`. -/
def scaleDown (num den : Nat) (q : Int) : Nat × Nat :=
  if 0 ≤ q then (num, den <<< q.toNat) else (num <<< (-q).toNat, den)

/-- The exponent at which `num / den` has a mantissa of 53 bits, but never below the least. -/
def exponentFor (num den : Nat) : Int :=
  let guess := max ((num.log2 : Int) - den.log2 - 52) minExponent
  let (n, d) := scaleDown num den guess
  if n / d < leadingBit then max (guess - 1) minExponent else guess

/-- The double nearest to `num / den`, a tie to the even mantissa; past the greatest double an
    infinity. -/
def ofRatio (negative : Bool) (num den : Nat) : Binary64 :=
  if num = 0 then zero negative
  else
    let q := exponentFor num den
    let (n, d) := scaleDown num den q
    let m := divToEven n d
    let (m, q) := if m = 2 * leadingBit then (leadingBit, q + 1) else (m, q)
    if maxExponent < q then .infinite negative else .finite negative m q

/-- The double nearest to a natural number. -/
def ofNat (n : Nat) : Binary64 := ofRatio false n 1

/-- The double nearest to `digits · 10^exponent`. Numbers far outside the range are settled by
    their length, before any power of ten is formed. -/
def ofDecimal (negative : Bool) (digits : Nat) (exponent : Int) : Binary64 :=
  let top := ((Nat.toDigits 10 digits).length : Int) + exponent
  if digits = 0 then zero negative
  else if 400 < top then .infinite negative
  else if top < -400 then zero negative
  else if 0 ≤ exponent then ofRatio negative (digits * Nat.pow 10 exponent.toNat) 1
  else ofRatio negative digits (Nat.pow 10 (-exponent).toNat)

/-! ## 3. Rounded products and quotients of positive doubles -/

/-- The product of two positive finite doubles, rounded. -/
def mulPositive : Binary64 → Binary64 → Binary64
  | .finite _ m₁ q₁, .finite _ m₂ q₂ =>
    let q := q₁ + q₂
    if 0 ≤ q then ofRatio false ((m₁ * m₂) <<< q.toNat) 1
    else ofRatio false (m₁ * m₂) (1 <<< (-q).toNat)
  | _, _ => .infinite false

/-- The quotient of two positive finite doubles, rounded. -/
def divPositive : Binary64 → Binary64 → Binary64
  | .finite _ m₁ q₁, .finite _ m₂ q₂ =>
    let q := q₁ - q₂
    if 0 ≤ q then ofRatio false (m₁ <<< q.toNat) m₂
    else ofRatio false m₁ (m₂ <<< (-q).toNat)
  | _, _ => .infinite false

end Binary64

example : Binary64.ofDecimal false 1 0 = .finite false Binary64.leadingBit (-52) := by decide +kernel
example : Binary64.ofDecimal false 5 (-324) = .finite false 1 (-1074) := by decide +kernel
example : Binary64.ofDecimal false 1 309 = .infinite false := by decide +kernel

end DaprHosting.Decimal
