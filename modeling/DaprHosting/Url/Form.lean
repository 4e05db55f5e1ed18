import DaprHosting.Url.Percent

/-!
# Form encoding

A query is a list of pairs, `name=value` with `&` between them. Letters, digits and `*-._` stand
for themselves, a space is a plus, and every other byte is percent encoded.
-/

namespace DaprHosting.Url.Form

open Text

/-! ## 1. Writing -/

/-- A byte that stands for itself. -/
def keeps (b : UInt8) : Bool :=
  (0x30 ≤ b && b ≤ 0x39) || (0x41 ≤ b && b ≤ 0x5A) || (0x61 ≤ b && b ≤ 0x7A) ||
  b = 0x2A || b = 0x2D || b = 0x2E || b = 0x5F

/-- A byte of a name or value. -/
def encodeByte (b : UInt8) : List Char :=
  if keeps b then [Char.ofNat b.toNat] else if b = 0x20 then ['+'] else percentByte b

/-- A name or value. -/
def encode (cs : List Char) : List Char := (utf8 cs).flatMap encodeByte

/-- A pair. -/
def encodePair (name value : List Char) : List Char := encode name ++ '=' :: encode value

/-- A query with one pair more. -/
def append (query : Option (List Char)) (name value : List Char) : List Char :=
  match query with
  | none | some [] => encodePair name value
  | some q => q ++ '&' :: encodePair name value

/-! ## 2. Reading -/

/-- A name or value. -/
def decode (cs : List Char) : String :=
  ofUtf8Lossy (percentDecode (cs.map fun c => if c = '+' then ' ' else c))

/-- A pair; without `=` the value is empty. -/
def decodePair (cs : List Char) : String × String :=
  match cutAt '=' cs with
  | (name, some value) => (decode name, decode value)
  | (name, none) => (decode name, "")

/-- The pairs of a query; nothing between two `&` is no pair. -/
def pairs (query : List Char) : List (String × String) :=
  ((query.splitOn '&').filter fun piece => !piece.isEmpty).map decodePair

end DaprHosting.Url.Form
