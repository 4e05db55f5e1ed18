import DaprHosting.Decimal.Binary64

/-!
# The fewest digits that read back

The decimal text of a double is made of the fewest digits whose number lies among the reals that
round to the double; of two such numbers with equally many digits the nearer one is taken. The
digits come as a pair `(d, e)` that stands for `d · 10^e`. How the pair is laid out (positional or
with an exponent) is the decision of the format that prints it.
-/

namespace DaprHosting.Decimal

/-! ## 1. The reals that round to a double -/

/-- A positive double `m · 2^q` with the borders of the reals that round to it, all three in units
    of `2^(q-2)`. -/
structure Borders where
  low : Nat
  value : Nat
  high : Nat
  unit : Int
  inclusive : Bool

/-- The borders lie half a step away; below a power of two the step is half as wide. The borders
    themselves round to the double when its mantissa is even. -/
def bordersOf (m : Nat) (q : Int) : Borders where
  low := if m = Binary64.leadingBit ∧ Binary64.minExponent < q then 4 * m - 1 else 4 * m - 2
  value := 4 * m
  high := 4 * m + 2
  unit := q - 2
  inclusive := m % 2 = 0

/-! ## 2. Points of a decimal grid -/

/-- Numerator and denominator of `n · 2^unit / 10^k`. -/
def onGrid (n : Nat) (unit k : Int) : Nat × Nat :=
  let num := if 0 ≤ unit then n <<< unit.toNat else n
  let den := if 0 ≤ unit then 1 else 1 <<< (-unit).toNat
  if 0 ≤ k then (num, den * Nat.pow 10 k.toNat) else (num * Nat.pow 10 (-k).toNat, den)

/-- Whether `d · 10^k` rounds to the double. -/
def Borders.admits (b : Borders) (d : Nat) (k : Int) : Bool :=
  let (ln, ld) := onGrid b.low b.unit k
  let (hn, hd) := onGrid b.high b.unit k
  if b.inclusive then decide (ln ≤ d * ld) && decide (d * hd ≤ hn)
  else decide (ln < d * ld) && decide (d * hd < hn)

/-- The point of the grid `10^k` that is taken: a neighbour of the value that rounds to it, of two
    the nearer, at equal distance the even one. -/
def Borders.point? (b : Borders) (k : Int) : Option Nat :=
  let (n, d) := onGrid b.value b.unit k
  let below := n / d
  let r := n % d
  match b.admits below k && below != 0, b.admits (below + 1) k with
  | true, true =>
    some (if 2 * r < d then below else if d < 2 * r then below + 1
      else if below % 2 = 0 then below else below + 1)
  | true, false => some below
  | false, true => some (below + 1)
  | false, false => none

/-! ## 3. The digits -/

/-- The power of ten of the leading digit of `m · 2^q`. -/
def leadingPower (m : Nat) (q : Int) : Int :=
  let (n, d) := onGrid m q (-400)
  ((Nat.toDigits 10 (n / d)).length : Int) - 401

/-- The first of the grids from `10^k` downwards, `n` of them, that has an admitted point. -/
def Borders.firstPoint (b : Borders) : Nat → Int → Nat × Int
  | 0, k => (b.value, k)
  | n + 1, k =>
    match b.point? k with
    | some d => (d, k)
    | none => b.firstPoint n (k - 1)

/-- The digits of a positive finite double: seventeen are always enough. -/
def shortest (m : Nat) (q : Int) : Nat × Int :=
  (bordersOf m q).firstPoint 17 (leadingPower m q)

/-! ## 4. Positional layout -/

/-- `d · 10^e` without an exponent: zeros are added on either side as far as the point. -/
def positional (d : Nat) (e : Int) : List Char :=
  let digits := Nat.toDigits 10 d
  if 0 ≤ e then digits ++ List.replicate e.toNat '0'
  else
    let places := (-e).toNat
    if places < digits.length then
      digits.take (digits.length - places) ++ '.' :: digits.drop (digits.length - places)
    else '0' :: '.' :: List.replicate (places - digits.length) '0' ++ digits

/-- A double in positional notation with the fewest digits, never with an exponent and with no
    point after a whole number. -/
def Binary64.toPositional : Binary64 → String
  | .nan => "NaN"
  | .infinite s => if s then "-inf" else "inf"
  | .finite s m q =>
    let digits := if m = 0 then ['0'] else positional (shortest m q).1 (shortest m q).2
    String.ofList (if s then '-' :: digits else digits)

example : shortest 1 (-1074) = (5, -324) := by decide +kernel

end DaprHosting.Decimal
