import DaprHosting.Json.Basic
import DaprHosting.Text.Ascii
import DaprHosting.Word

/-!
# Reading JSON

The grammar is the strict one: no leading zeros, no trailing commas, no control characters in
strings, nothing after the value but white space. A value that is grammatical and denotes nothing
reads as `Json.void`.

A double is read in two roundings: the digits that fit 64 bits are rounded to a double, which is
then multiplied or divided by a rounded power of ten. The text `1e309` reaches no double.
-/

namespace DaprHosting.Json

open Decimal (Binary64)
open Text (after? hexDigit?)

/-! ## 1. Numbers -/

/-- The digits appended to a number as long as it fits 64 bits, and those left over. -/
def fill : Nat → List Char → Nat × List Char
  | n, [] => (n, [])
  | n, c :: cs =>
    let next := n * 10 + (c.toNat - '0'.toNat)
    if next ≤ Word.max64 then fill next cs else (n, c :: cs)

/-- A positive double times a power of ten, scaled by at most `10^308` at a time. -/
def scale : Nat → Binary64 → Int → Option Binary64
  | 0, x, _ => some x
  | fuel + 1, x, power =>
    if power.natAbs ≤ 308 then
      let factor := Binary64.ofDecimal false 1 power.natAbs
      if 0 ≤ power then
        let y := x.mulPositive factor
        if y.isFinite then some y else none
      else some (x.divPositive factor)
    else if x = Binary64.zero false then some x
    else if 0 ≤ power then none
    else scale fuel (x.divPositive (Binary64.ofDecimal false 1 308)) (power + 308)

/-- A double with a sign from 64 bits of digits and a power of ten. -/
def float? (negative : Bool) (significand : Nat) (power : Int) : Option Number :=
  (scale 4 (Binary64.ofNat significand) power).map fun x =>
    .float (if negative then x.negate else x)

/-- The parts of a numeral. -/
structure Numeral where
  negative : Bool
  whole : List Char
  fraction : List Char
  exponent : Option (Bool × List Char)

/-- The number that a numeral denotes, if it denotes one: an integer when it has neither fraction
    nor exponent and fits, a double otherwise. A minus before zero makes the double `-0`. -/
def Numeral.value? (t : Numeral) : Option Number :=
  let (n, more) := fill 0 t.whole
  if t.fraction.isEmpty && t.exponent.isNone && more.isEmpty then
    if t.negative then
      if n = 0 ∨ Word.maxSigned64 + 1 < n then
        some (.float (Binary64.negate (Binary64.ofNat n)))
      else some (.integer (-(n : Int)))
    else some (.integer n)
  else
    let (s, rest) := fill n t.fraction
    let power : Int := more.length - (t.fraction.length - rest.length : Nat)
    match t.exponent with
    | none => float? t.negative s power
    | some (minus, digits) =>
      let e := (Text.numeral? 10 digits).getD 0
      if Word.maxSigned32 < e then
        if s = 0 ∨ minus then some (.float (Binary64.zero t.negative)) else none
      else float? t.negative s (if minus then power - e else power + e)

/-- A run of digits at the front, at least one. -/
def digits? (cs : List Char) : Option (List Char × List Char) :=
  match cs.takeWhile Char.isDigit with
  | [] => none
  | d :: ds => some (d :: ds, cs.dropWhile Char.isDigit)

/-- The whole part: a zero alone, or digits that do not start with one. -/
def whole? (cs : List Char) : Option (List Char × List Char) := do
  let (ds, rest) ← digits? cs
  if ds.head? = some '0' ∧ ds ≠ ['0'] then none else some (ds, rest)

/-- The fraction, empty when there is no point. -/
def fraction? : List Char → Option (List Char × List Char)
  | '.' :: cs => digits? cs
  | cs => some ([], cs)

/-- The exponent with its sign, if there is one. -/
def exponent? : List Char → Option (Option (Bool × List Char) × List Char)
  | [] => some (none, [])
  | c :: cs =>
    if c = 'e' ∨ c = 'E' then
      let (minus, cs) := match cs with
        | '-' :: r => (true, r)
        | '+' :: r => (false, r)
        | r => (false, r)
      (digits? cs).map fun (ds, r) => (some (minus, ds), r)
    else some (none, c :: cs)

/-- A numeral at the front. -/
def numeral? (cs : List Char) : Option (Numeral × List Char) := do
  let (negative, cs) := match cs with
    | '-' :: r => (true, r)
    | r => (false, r)
  let (whole, cs) ← whole? cs
  let (fraction, cs) ← fraction? cs
  let (exponent, cs) ← exponent? cs
  return (⟨negative, whole, fraction, exponent⟩, cs)

/-! ## 2. Strings -/

/-- What stands between the quotes: characters, and units of sixteen bits from escapes. -/
inductive Piece where
  | char (c : Char)
  | unit (n : Nat)
deriving DecidableEq, Repr

/-- The character of a one-letter escape. -/
def escaped? (c : Char) : Option Char :=
  if c = '"' ∨ c = '\\' ∨ c = '/' then some c
  else if c = 'n' then some '\n'
  else if c = 'r' then some '\r'
  else if c = 't' then some '\t'
  else if c = 'b' then some '\x08'
  else if c = 'f' then some '\x0c'
  else none

/-- The value of four hexadecimal digits. -/
def unit? (a b c d : Char) : Option Nat := do
  return (((← hexDigit? a) * 16 + (← hexDigit? b)) * 16 + (← hexDigit? c)) * 16 + (← hexDigit? d)

/-- The pieces up to the closing quote, and what follows it. -/
def pieces? : List Char → Option (List Piece × List Char)
  | [] => none
  | c :: cs =>
    if c = '"' then some ([], cs)
    else if c = '\\' then
      match cs with
      | [] => none
      | e :: cs =>
        if e = 'u' then
          match cs with
          | h₁ :: h₂ :: h₃ :: h₄ :: cs => do
            let n ← unit? h₁ h₂ h₃ h₄
            let (ps, r) ← pieces? cs
            return (.unit n :: ps, r)
          | _ => none
        else do
          let x ← escaped? e
          let (ps, r) ← pieces? cs
          return (.char x :: ps, r)
    else if c.toNat < 0x20 then none
    else do
      let (ps, r) ← pieces? cs
      return (.char c :: ps, r)

/-- The characters of the pieces: the two halves of a pair must stand side by side. -/
def joinPieces : List Piece → Option (List Char)
  | [] => some []
  | .char c :: ps => (joinPieces ps).map (c :: ·)
  | .unit n :: ps =>
    if 0xD800 ≤ n ∧ n < 0xDC00 then
      match ps with
      | .unit m :: ps =>
        if 0xDC00 ≤ m ∧ m < 0xE000 then
          (joinPieces ps).map (Char.ofNat (0x10000 + (n - 0xD800) * 0x400 + (m - 0xDC00)) :: ·)
        else none
      | _ => none
    else if 0xDC00 ≤ n ∧ n < 0xE000 then none
    else (joinPieces ps).map (Char.ofNat n :: ·)

/-- A string literal after its opening quote; what it denotes may be nothing. -/
def literal? (cs : List Char) : Option (Option String × List Char) :=
  (pieces? cs).map fun (ps, r) => ((joinPieces ps).map String.ofList, r)

/-! ## 3. Values -/

/-- The white space of the format: space, tab and the two line ends. -/
def isSpace (c : Char) : Bool := c = ' ' || c = '\n' || c = '\t' || c = '\r'

/-- The characters from the first that is no white space. -/
def skip (cs : List Char) : List Char := cs.dropWhile isSpace

/-- An object, unless one of its names is unreadable. -/
def ofMembers (ms : List (Option String × Json)) : Json :=
  match ms.mapM fun m => m.1.map (·, m.2) with
  | some ms => .object ms
  | none => .void

mutual

/-- A value at the front, after white space. -/
def value? : Nat → List Char → Option (Json × List Char)
  | 0, _ => none
  | fuel + 1, cs =>
    match skip cs with
    | [] => none
    | c :: cs =>
      if c = '"' then
        (literal? cs).map fun (s, r) => ((s.map Json.string).getD .void, r)
      else if c = '[' then
        match skip cs with
        | ']' :: r => some (.array [], r)
        | cs => (elements? fuel cs).map fun (js, r) => (.array js, r)
      else if c = '\x7b' then
        match skip cs with
        | '\x7d' :: r => some (.object [], r)
        | cs => (namedMembers? fuel cs).map fun (ms, r) => (ofMembers ms, r)
      else if c = 't' then (after? ['r', 'u', 'e'] cs).map (.bool true, ·)
      else if c = 'f' then (after? ['a', 'l', 's', 'e'] cs).map (.bool false, ·)
      else if c = 'n' then (after? ['u', 'l', 'l'] cs).map (.null, ·)
      else (numeral? (c :: cs)).map fun (t, r) => ((t.value?.map Json.number).getD .void, r)

/-- One element or more, up to the closing bracket. -/
def elements? : Nat → List Char → Option (List Json × List Char)
  | 0, _ => none
  | fuel + 1, cs =>
    match value? fuel cs with
    | none => none
    | some (j, r) =>
      match skip r with
      | ',' :: r => (elements? fuel r).map fun (js, r) => (j :: js, r)
      | ']' :: r => some ([j], r)
      | _ => none

/-- One member or more, up to the closing brace. -/
def namedMembers? : Nat → List Char → Option (List (Option String × Json) × List Char)
  | 0, _ => none
  | fuel + 1, cs =>
    match skip cs with
    | '"' :: cs =>
      match literal? cs with
      | none => none
      | some (k, r) =>
        match skip r with
        | ':' :: r =>
          match value? fuel r with
          | none => none
          | some (j, r) =>
            match skip r with
            | ',' :: r => (namedMembers? fuel r).map fun (ms, r) => ((k, j) :: ms, r)
            | '\x7d' :: r => some ([(k, j)], r)
            | _ => none
        | _ => none
    | _ => none

end

/-- The document that the characters are. Every nested value takes a character off the text, so
    twice its length is enough fuel. -/
def ofChars? (cs : List Char) : Option Json :=
  match value? (2 * cs.length + 2) cs with
  | some (j, r) => if skip r = [] then some j else none
  | none => none

/-- The document that a text is. -/
def read? (s : String) : Option Json := ofChars? s.toList

example : (read? "[1 , -2, null]").map (fun j => match j with | .array js => js.length | _ => 0) =
    some 3 := by cbv
example : (read? "\"\\ud83d\\ude00\"").bind string? = some "😀" := by cbv
example : read? "[1,]" = none := by cbv
example : (read? "01").isNone = true := by cbv

end DaprHosting.Json
