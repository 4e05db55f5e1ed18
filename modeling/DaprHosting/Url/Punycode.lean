import DaprHosting.Text.Ascii
import DaprHosting.Word

/-!
# Labels in ASCII

A label of a domain with characters outside ASCII is written as its ASCII characters followed by
digits of base 36 that say which other characters are inserted, and where. The width of each digit
adapts to the sizes of the numbers before it.
-/

namespace DaprHosting.Url.Punycode

/-! ## 1. Parameters -/

/-- The number of digits: 26 letters and 10 figures. -/
def base : Nat := 36

/-- The least threshold. -/
def tMin : Nat := 1

/-- The greatest threshold. -/
def tMax : Nat := 26

/-- How fast the bias leaves its ends. -/
def skew : Nat := 38

/-- What the first difference is divided by. -/
def damp : Nat := 700

/-- The bias before the first difference. -/
def initialBias : Nat := 72

/-- The code point before the first: the first one that is not ASCII. -/
def initialPoint : Nat := 128

/-- A digit of base 36, in lower case. -/
def digitChar (n : Nat) : Char :=
  if n < 26 then Char.ofNat ('a'.toNat + n) else Char.ofNat ('0'.toNat + (n - 26))

/-- The value of a digit of base 36. -/
def digit? (c : Char) : Option Nat :=
  if 'a' ≤ c ∧ c ≤ 'z' then some (c.toNat - 'a'.toNat)
  else if 'A' ≤ c ∧ c ≤ 'Z' then some (c.toNat - 'A'.toNat)
  else if c.isDigit then some (c.toNat - '0'.toNat + 26)
  else none

/-- The threshold of the digit at `k`. -/
def threshold (k bias : Nat) : Nat := min (max (k - bias) tMin) tMax

/-- Divisions by 35 until the number is small, counted in digits. Each division shrinks the number,
    so its logarithm is enough fuel. -/
def shrink : Nat → Nat → Nat → Nat
  | 0, delta, k => k + (base - tMin + 1) * delta / (delta + skew)
  | fuel + 1, delta, k =>
    if (base - tMin) * tMax / 2 < delta then shrink fuel (delta / (base - tMin)) (k + base)
    else k + (base - tMin + 1) * delta / (delta + skew)

/-- The bias after a number. -/
def adapt (delta count : Nat) (first : Bool) : Nat :=
  let delta := if first then delta / damp else delta / 2
  let delta := delta + delta / count
  shrink (delta.log2 + 1) delta 0

/-! ## 2. Writing -/

/-- The digits of a number from position `k` on. -/
def digits : Nat → Nat → Nat → Nat → List Char
  | 0, _, _, _ => []
  | fuel + 1, q, k, bias =>
    let t := threshold k bias
    if q < t then [digitChar q]
    else digitChar (t + (q - t) % (base - t)) :: digits fuel ((q - t) / (base - t)) (k + base) bias

/-- The state while a label is written. -/
structure Writing where
  delta : Nat
  bias : Nat
  handled : Nat
  basic : Nat
  out : List Char

/-- One character of the label at the turn of the code point `n`. -/
def Writing.step (n : Nat) (w : Writing) (c : Char) : Writing :=
  if c.toNat < n then { w with delta := w.delta + 1 }
  else if c.toNat = n then
    { w with
      delta := 0
      bias := adapt w.delta (w.handled + 1) (w.handled = w.basic)
      handled := w.handled + 1
      out := w.out ++ digits (w.delta.log2 + 2) w.delta base w.bias }
  else w

/-- The turns of the code points outside ASCII, in ascending order. -/
def turns (label : List Char) : List Nat → Nat → Writing → List Char
  | [], _, w => w.out
  | m :: ms, n, w =>
    let w := { w with delta := w.delta + (m - n) * (w.handled + 1) }
    let w := label.foldl (Writing.step m) w
    turns label ms (m + 1) { w with delta := w.delta + 1 }

/-- The code points outside ASCII, ascending, each once. -/
def points (label : List Char) : List Nat :=
  (((label.filter fun c => 128 ≤ c.toNat).map Char.toNat).mergeSort).eraseDups

/-- The ASCII form of a label, without its mark. -/
def encode (label : List Char) : List Char :=
  let ascii := label.filter fun c => c.toNat < 128
  let start := if ascii.isEmpty then [] else ascii ++ ['-']
  turns label (points label) initialPoint ⟨0, initialBias, ascii.length, ascii.length, start⟩

/-! ## 3. Reading -/

/-- A number from digits at position `k` on, and the digits after it. -/
def number? : List Char → Nat → Nat → Nat → Nat → Option (Nat × List Char)
  | [], _, _, _, _ => none
  | c :: cs, i, w, k, bias => do
    let d ← digit? c
    let i := i + d * w
    if Word.max32 < i then none
    else
      let t := threshold k bias
      if d < t then some (i, cs)
      else
        let w := w * (base - t)
        if Word.max32 < w then none else number? cs i w (k + base) bias

/-- The characters inserted by digits. Each insertion takes a digit, so there are no more of them
    than digits. -/
def insertions : Nat → List Char → Nat → Nat → Nat → List Char → Option (List Char)
  | 0, _, _, _, _, out => some out
  | fuel + 1, cs, n, i, bias, out =>
    match cs with
    | [] => some out
    | cs => do
      let (next, rest) ← number? cs i 1 base bias
      let count := out.length + 1
      let n := n + next / count
      let place := next % count
      if n.isValidChar then
        insertions fuel rest n (place + 1) (adapt (next - i) count (i = 0))
          (out.take place ++ Char.ofNat n :: out.drop place)
      else none

/-- The label of an ASCII form without its mark. -/
def decode? (cs : List Char) : Option (List Char) :=
  let tail := (cs.reverse.takeWhile (· ≠ '-')).reverse
  let front := cs.take (cs.length - tail.length - 1)
  let front := if tail.length = cs.length then [] else front
  if front.all (·.toNat < 128) then
    insertions (tail.length + 1) tail initialPoint 0 initialBias front
  else none

example : String.ofList (encode "bücher".toList) = "bcher-kva" := by decide +kernel
example : decode? "bcher-kva".toList = some "bücher".toList := by decide +kernel

end DaprHosting.Url.Punycode
