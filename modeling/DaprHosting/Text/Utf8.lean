/-!
# Bytes as text

Reading bytes as UTF-8. Bytes that are no part of a character are cut into the longest pieces that
could still have become one, and each such piece is one fault: a reader that insists on text
refuses the first fault, a lenient one puts a replacement character in the place of each.
-/

namespace DaprHosting.Text

/-! ## 1. Encoding -/

/-- The bytes of characters. -/
def utf8 (cs : List Char) : List UInt8 := cs.flatMap String.utf8EncodeChar

/-- How many bytes the characters take. -/
def byteCount (cs : List Char) : Nat := cs.foldl (fun n c => n + c.utf8Size) 0

/-! ## 2. Decoding -/

/-- What is known in the middle of the bytes: nothing is open, or a character is, with the count
    of bytes it still needs, the range of the next one and the value so far. -/
inductive Utf8State where
  | idle
  | open (missing low high value : Nat)
deriving DecidableEq, Repr

/-- The state after a byte that nothing was open before, and the character or the fault that is
    complete with it. -/
def firstByte (b : Nat) : List (Option Char) × Utf8State :=
  if b < 0x80 then ([some (Char.ofNat b)], .idle)
  else if b < 0xC2 then ([none], .idle)
  else if b < 0xE0 then ([], .open 1 0x80 0xBF (b - 0xC0))
  else if b = 0xE0 then ([], .open 2 0xA0 0xBF 0)
  else if b = 0xED then ([], .open 2 0x80 0x9F 0xD)
  else if b < 0xF0 then ([], .open 2 0x80 0xBF (b - 0xE0))
  else if b = 0xF0 then ([], .open 3 0x90 0xBF 0)
  else if b < 0xF4 then ([], .open 3 0x80 0xBF (b - 0xF0))
  else if b = 0xF4 then ([], .open 3 0x80 0x8F 4)
  else ([none], .idle)

/-- One byte in any state. A byte that does not fit what is open ends it as a fault and starts
    anew. -/
def nextByte (state : Utf8State) (b : Nat) : List (Option Char) × Utf8State :=
  match state with
  | .idle => firstByte b
  | .open missing low high value =>
    if low ≤ b ∧ b ≤ high then
      let value := value * 64 + b % 64
      if missing ≤ 1 then ([some (Char.ofNat value)], .idle)
      else ([], .open (missing - 1) 0x80 0xBF value)
    else (none :: (firstByte b).1, (firstByte b).2)

/-- The characters and faults of bytes from a state on. -/
def decodeFrom : Utf8State → List UInt8 → List (Option Char)
  | .idle, [] => []
  | .open .., [] => [none]
  | state, b :: bs =>
    (nextByte state b.toNat).1 ++ decodeFrom (nextByte state b.toNat).2 bs

/-- The characters and faults of bytes. -/
def decode (bs : List UInt8) : List (Option Char) := decodeFrom .idle bs

/-- The text that the bytes are, if they are one. -/
def ofUtf8? (bs : List UInt8) : Option String := ((decode bs).mapM id).map String.ofList

/-- The text of the bytes with a replacement character for each fault. -/
def ofUtf8Lossy (bs : List UInt8) : String :=
  String.ofList ((decode bs).map fun c => c.getD (Char.ofNat 0xFFFD))

example : decode [0xC3, 0xA9, 0xE2, 0x82, 0x41, 0xFF] = [some 'é', none, some 'A', none] := by
  decide +kernel

end DaprHosting.Text
