import DaprHosting.Url.Domain
import DaprHosting.Url.Percent
import DaprHosting.Word

/-!
# Hosts

A host is a domain, an address of four bytes, an address of eight groups in brackets, or, where
the scheme is none of the special ones, a text of its own. An address is read in any of its
notations and written in one.
-/

namespace DaprHosting.Url

/-! ## 1. Addresses of four bytes -/

/-- What a part of such an address is: no number, a number, or one that 32 bits do not hold. -/
inductive AddressPart where
  | none
  | number (n : Nat)
  | tooLarge
deriving DecidableEq, Repr

/-- A part: hexadecimal after `0x`, octal after `0`, decimal otherwise; `0x` alone is zero. -/
def addressPart (cs : List Char) : AddressPart :=
  let read (base : Nat) (ds : List Char) : AddressPart :=
    match Text.numeral? base ds with
    | some n => if n ≤ Word.max32 then .number n else .tooLarge
    | Option.none => .none
  match cs with
  | [] => .none
  | '0' :: 'x' :: ds => read 16 ds
  | '0' :: 'X' :: ds => read 16 ds
  | '0' :: d :: ds => read 8 (d :: ds)
  | cs => read 10 cs

/-- The parts of a domain, without an empty one at the end. -/
def domainParts (cs : List Char) : List (List Char) :=
  let parts := cs.splitOn '.'
  if parts.getLast? = some [] then parts.dropLast else parts

/-- A domain whose last part is a number is an address, or nothing. -/
def endsInNumber (cs : List Char) : Bool :=
  match (domainParts cs).getLast? with
  | Option.none => false
  | some last => (!last.isEmpty && last.all Char.isDigit) || addressPart last != .none

/-- The numbers of an address as one: every part but the last is a byte, the last fills the rest. -/
def joinParts : List Nat → Option Nat
  | [] => Option.none
  | ns =>
    let front := ns.dropLast
    let last := ns.getLastD 0
    if 4 < ns.length ∨ front.any (255 < ·) ∨ Nat.pow 256 (4 - front.length) ≤ last then Option.none
    else some (front.zipIdx.foldl (fun total p => total + p.1 * Nat.pow 256 (3 - p.2)) last)

/-- The number of a part. -/
def partNumber? (cs : List Char) : Option Nat :=
  match addressPart cs with
  | .number n => some n
  | _ => Option.none

/-- The address of four bytes that a domain is. -/
def fourBytes? (cs : List Char) : Option Nat := ((domainParts cs).mapM partNumber?).bind joinParts

/-- An address as four decimal numbers. -/
def fourBytesChars (n : Nat) : List Char :=
  ['.'].intercalate ([3, 2, 1, 0].map fun i => Text.decimal (n / Nat.pow 256 i % 256))

/-! ## 2. Addresses of eight groups -/

/-- A byte in decimal, without leading zeros. -/
def decimalByte? (cs : List Char) : Option Nat :=
  if cs = [] ∨ (cs.head? = some '0' ∧ cs ≠ ['0']) then Option.none
  else (Text.numeral? 10 cs).bind fun n => if n ≤ 255 then some n else Option.none

/-- Four bytes as two groups. -/
def twoGroups? (cs : List Char) : Option (List Nat) := do
  match ← (cs.splitOn '.').mapM decimalByte? with
  | [a, b, c, d] => some [a * 256 + b, c * 256 + d]
  | _ => Option.none

/-- A group of up to four hexadecimal digits. -/
def group? (cs : List Char) : Option Nat :=
  if cs = [] ∨ 4 < cs.length then Option.none else Text.numeral? 16 cs

/-- Groups with colons between them; the last may be four bytes. -/
def groups? : List (List Char) → Option (List Nat)
  | [] => some []
  | [last] => if last.contains '.' then twoGroups? last else (group? last).map ([·])
  | g :: gs => do return (← group? g) :: (← groups? gs)

/-- Groups of a text; the empty text has none. -/
def groupsOf? (cs : List Char) : Option (List Nat) :=
  if cs = [] then some [] else groups? (cs.splitOn ':')

/-- The text before the first doubled colon and after it. -/
def cutAtDoubled : List Char → Option (List Char × List Char)
  | ':' :: ':' :: cs => some ([], cs)
  | c :: cs => (cutAtDoubled cs).map fun (a, b) => (c :: a, b)
  | [] => Option.none

/-- The eight groups that a text writes; a doubled colon stands for one group of zeros or more. -/
def eightGroups? (cs : List Char) : Option (List Nat) :=
  match cutAtDoubled cs with
  | Option.none => (groupsOf? cs).bind fun gs => if gs.length = 8 then some gs else Option.none
  | some (before, after) => do
    if before.contains '.' then Option.none
    else
      let front ← groupsOf? before
      let back ← groupsOf? after
      if front.length + back.length ≤ 7 then
        some (front ++ List.replicate (8 - front.length - back.length) 0 ++ back)
      else Option.none

/-- How many groups from the front are zero. -/
def zerosAhead (gs : List Nat) : Nat := (gs.takeWhile (· = 0)).length

/-- Where the longest run of zeros starts, and its length: the first of several. -/
def longestZeros (gs : List Nat) : Nat × Nat :=
  ((List.range gs.length).map fun i => (i, zerosAhead (gs.drop i))).foldl
    (fun best r => if best.2 < r.2 then r else best) (0, 0)

/-- Groups with colons between them. -/
def groupChars (gs : List Nat) : List Char := [':'].intercalate (gs.map Text.hex)

/-- Eight groups, the longest run of two zeros or more as a doubled colon. -/
def eightGroupsChars (gs : List Nat) : List Char :=
  let (start, count) := longestZeros gs
  if count < 2 then groupChars gs
  else groupChars (gs.take start) ++ ':' :: ':' :: groupChars (gs.drop (start + count))

/-! ## 3. Hosts -/

/-- A host in brackets. -/
def bracketed? (cs : List Char) : Option (List Char) :=
  if cs.getLast? = some ']' then
    (eightGroups? (cs.drop 1).dropLast).map fun gs => '[' :: eightGroupsChars gs ++ [']']
  else Option.none

/-- The host of a special scheme, as it is written. -/
def specialHost? (cs : List Char) : Option (List Char) :=
  if cs.head? = some '[' then bracketed? cs
  else do
    let decoded ← Text.ofUtf8? (percentDecode cs)
    let domain ← asciiDomain? decoded.toList
    if domain = [] then Option.none
    else if endsInNumber domain then (fourBytes? domain).map fourBytesChars
    else some domain

/-- A character that no other host holds. -/
def isForbiddenInHost (c : Char) : Bool :=
  c = '\x00' || c = '\t' || c = '\n' || c = '\r' || " #/:<>?@[\\]^|".toList.contains c

/-- The host of any other scheme, as it is written. -/
def otherHost? (cs : List Char) : Option (List Char) :=
  if cs.head? = some '[' then bracketed? cs
  else if cs.any isForbiddenInHost then Option.none
  else some (percentEncode controlSet cs)

end DaprHosting.Url
