import DaprHosting.Text.Ascii

/-!
# Identifiers of 128 bits

Such an identifier is written as five groups of hexadecimal digits with hyphens between them; it
is also read without hyphens, in braces, or after `urn:uuid:`.
-/

namespace DaprHosting

/-- An identifier of 128 bits. -/
structure Uuid where
  bits : BitVec 128
deriving DecidableEq, Repr

namespace Uuid

/-! ## 1. Writing -/

/-- The thirty-two digits in lower case. -/
def digits (u : Uuid) : List Char :=
  (List.range 32).map fun i => Nat.digitChar (u.bits.toNat / Nat.pow 16 (31 - i) % 16)

/-- The digits in groups of 8, 4, 4, 4 and 12. -/
def toChars (u : Uuid) : List Char :=
  let ds := u.digits
  ds.take 8 ++ '-' :: (ds.drop 8).take 4 ++ '-' :: (ds.drop 12).take 4 ++
    '-' :: (ds.drop 16).take 4 ++ '-' :: ds.drop 20

/-- The written form. -/
def toText (u : Uuid) : String := String.ofList u.toChars

/-! ## 2. Reading -/

/-- The identifier of thirty-two digits. -/
def ofDigits? (ds : List Char) : Option Uuid :=
  if ds.length = 32 then (Text.numeral? 16 ds).map fun n => ⟨BitVec.ofNat 128 n⟩ else none

/-- The identifier of five groups with hyphens. -/
def ofHyphenated? (cs : List Char) : Option Uuid :=
  match cs.splitOn '-' with
  | [a, b, c, d, e] =>
    if a.length = 8 ∧ b.length = 4 ∧ c.length = 4 ∧ d.length = 4 ∧ e.length = 12 then
      ofDigits? (a ++ b ++ c ++ d ++ e)
    else none
  | _ => none

/-- What stands between braces. -/
def unbraced? (cs : List Char) : Option (List Char) :=
  if cs.head? = some '\x7b' ∧ cs.getLast? = some '\x7d' ∧ 2 ≤ cs.length then
    some (cs.drop 1).dropLast
  else none

/-- The identifier that the characters write in any of the four forms. -/
def ofChars? (cs : List Char) : Option Uuid :=
  if cs.length = 32 then ofDigits? cs
  else
    match unbraced? cs, Text.after? ['u', 'r', 'n', ':', 'u', 'u', 'i', 'd', ':'] cs with
    | some inner, _ => ofHyphenated? inner
    | none, some rest => ofHyphenated? rest
    | none, none => ofHyphenated? cs

/-- The identifier that a text writes. -/
def read? (s : String) : Option Uuid := ofChars? s.toList

example : (read? "urn:uuid:00000000-0000-0000-0000-00000000AB01").map toText =
    some "00000000-0000-0000-0000-00000000ab01" := by decide +kernel

end Uuid

end DaprHosting
