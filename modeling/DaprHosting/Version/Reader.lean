import DaprHosting.Version.Basic
import DaprHosting.Text.Ascii
import DaprHosting.Text.Blank
import DaprHosting.Word

/-!
# Reading versions

The full form is `MAJOR.MINOR.PATCH`, then `-` and a pre-release, then `+` and build metadata. The
three numbers and the numeric identifiers of a pre-release have no leading zeros; the numbers fit
64 bits. An operator may also write white space around a version, one `v` before it, and the short
form `MAJOR.MINOR`, which is completed with a zero.
-/

namespace DaprHosting.Version

open Text

/-! ## 1. Parts -/

/-- A number of 64 bits without leading zeros. -/
def numeral? (cs : List Char) : Option Nat :=
  if cs = [] ∨ ¬ cs.all Char.isDigit ∨ (cs.head? = some '0' ∧ cs ≠ ['0']) then none
  else (Text.numeral? 10 cs).bind fun n => if n ≤ Word.max64 then some n else none

/-- A letter, digit or hyphen of ASCII. -/
def isIdentifierChar (c : Char) : Bool := isAsciiAlphanumeric c || c = '-'

/-- An identifier of build metadata. -/
def buildIdentifier? (cs : List Char) : Option Identifier :=
  if cs = [] ∨ ¬ cs.all isIdentifierChar then none
  else if cs.all Char.isDigit then
    (Text.numeral? 10 cs).map fun n => .number n cs.length
  else some (.word cs)

/-- An identifier of a pre-release: as in a build, but a number has no leading zeros. -/
def preIdentifier? (cs : List Char) : Option Identifier :=
  if cs.all Char.isDigit ∧ cs.head? = some '0' ∧ cs ≠ ['0'] then none
  else buildIdentifier? cs

/-- Identifiers with points between them; a part that is not written has none. -/
def identifiers? (read : List Char → Option Identifier) :
    Option (List Char) → Option (List Identifier)
  | none => some []
  | some cs => (cs.splitOn '.').mapM read

/-! ## 2. Texts -/

/-- The version that a text in the full form denotes. -/
def ofChars? (cs : List Char) : Option Version :=
  let (front, build) := cutAt '+' cs
  let (core, pre) := cutAt '-' front
  match core.splitOn '.' with
  | [a, b, c] => do
    return {
      major := ← numeral? a
      minor := ← numeral? b
      patch := ← numeral? c
      pre := ← identifiers? preIdentifier? pre
      build := ← identifiers? buildIdentifier? build }
  | _ => none

/-- The text without one leading `v`. -/
def dropV : List Char → List Char
  | 'v' :: cs => cs
  | cs => cs

/-- The version that an operator's text denotes: the full form, or else the full form after `.0`
    is added. -/
def read? (s : String) : Option Version :=
  let cs := dropV (trimChars s.toList)
  (ofChars? cs).orElse fun _ => ofChars? (cs ++ ['.', '0'])

/-- Whether moving from `installed` to `requested` goes back. Two versions are compared as
    versions; when either text denotes none, the texts are compared character by character. -/
def isDowngrade (requested installed : String) : Bool :=
  match read? requested, read? installed with
  | some r, some i => r.before i
  | _, _ => requested < installed

example : isDowngrade "1.9" "v1.10" = true := by cbv
example : isDowngrade "1.0.0" "1.0.0+1" = true := by cbv
example : isDowngrade "1.0.0+a-b" "1.0.0-a" = false := by cbv

end DaprHosting.Version
