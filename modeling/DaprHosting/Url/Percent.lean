import DaprHosting.Text.Ascii
import DaprHosting.Text.Utf8

/-!
# Percent encoding

A character that a part of a URL cannot hold is written byte by byte, each as `%` and two digits
in upper case. Which characters those are differs from part to part; characters outside ASCII are
always among them. Decoding leaves a `%` that two digits do not follow as it stands.
-/

namespace DaprHosting.Url

open Text

/-! ## 1. Sets -/

/-- Controls, and everything outside ASCII. -/
def controlSet (c : Char) : Bool := c.toNat < 0x20 || 0x7F ≤ c.toNat

/-- What a fragment writes encoded. -/
def fragmentSet (c : Char) : Bool :=
  controlSet c || c = ' ' || c = '"' || c = '<' || c = '>' || c = '\x60'

/-- What a query writes encoded. -/
def querySet (c : Char) : Bool :=
  controlSet c || c = ' ' || c = '"' || c = '#' || c = '<' || c = '>'

/-- What the query of a special scheme writes encoded. -/
def specialQuerySet (c : Char) : Bool := querySet c || c = '\''

/-- What a path writes encoded. -/
def pathSet (c : Char) : Bool :=
  fragmentSet c || c = '#' || c = '?' || c = '\x7b' || c = '\x7d'

/-- What user name and password write encoded. -/
def userinfoSet (c : Char) : Bool :=
  pathSet c || c = '/' || c = ':' || c = ';' || c = '=' || c = '@' || c = '[' || c = '\\' ||
  c = ']' || c = '^' || c = '|'

/-- What a single segment, which must not be taken for more than one, writes encoded. -/
def segmentSet (special : Bool) (c : Char) : Bool :=
  pathSet c || c = '/' || c = '%' || (special && c = '\\')

/-! ## 2. Encoding and decoding -/

/-- A byte written with two digits. -/
def percentByte (b : UInt8) : List Char :=
  ['%', upperHexDigit (b.toNat / 16), upperHexDigit b.toNat]

/-- A character, encoded when it is in the set. -/
def encodeChar (set : Char → Bool) (c : Char) : List Char :=
  if set c then (utf8 [c]).flatMap percentByte else [c]

/-- The characters, those of the set encoded. -/
def percentEncode (set : Char → Bool) (cs : List Char) : List Char := cs.flatMap (encodeChar set)

/-- The byte that two digits write. -/
def byteOfDigits? (a b : Char) : Option UInt8 := do
  return UInt8.ofNat ((← hexDigit? a) * 16 + (← hexDigit? b))

/-- The bytes of the characters, with what is encoded decoded. -/
def percentDecode : List Char → List UInt8
  | [] => []
  | [c] => utf8 [c]
  | [c, d] => utf8 [c, d]
  | c :: a :: b :: cs =>
    if c = '%' then
      match byteOfDigits? a b with
      | some byte => byte :: percentDecode cs
      | none => utf8 [c] ++ percentDecode (a :: b :: cs)
    else utf8 [c] ++ percentDecode (a :: b :: cs)

example : percentEncode pathSet "a é".toList = "a%20%C3%A9".toList := by decide +kernel
example : percentDecode "%41%4".toList = [0x41, 0x25, 0x34] := by decide +kernel

end DaprHosting.Url
