import DaprHosting.Text.Unseen
import DaprHosting.Url.DomainTable
import DaprHosting.Url.Punycode

/-!
# Domains

A domain is a list of labels with points between them. Its letters are brought to their one form,
and a label that is still not ASCII is written in ASCII with the mark `xn--` before it. A label
that comes with the mark must be what its characters would be written as.
-/

namespace DaprHosting.Url

/-! ## 1. Letters -/

/-- A code point in one of the ranges. -/
def inRanges (ranges : List (Nat × Nat)) (n : Nat) : Bool :=
  ranges.any fun r => r.1 ≤ n && n ≤ r.2

/-- The code point that a code point outside ASCII is written as, if it is another one. -/
def letterForm? (n : Nat) : Option Nat :=
  (letterForms.find? fun (first, last, step, _) =>
    first ≤ n && n ≤ last && (n - first) % step == 0).map
    fun (first, _, _, target) => target + (n - first)

/-- What a character of a domain is written as; none for one that has no place in a domain. -/
def domainForm? (c : Char) : Option (List Char) :=
  let n := c.toNat
  if n < 0x80 then some [c.toLower]
  else if inRanges leftOut n then some []
  else match letterForm? n, spelledOut.find? fun e => e.1 == n with
    | some m, _ => some [Char.ofNat m]
    | none, some (_, ms) => some (ms.map Char.ofNat)
    | none, none =>
      if Text.isFormless c || inRanges compatibilityForms n then none else some [c]

/-- The one letter for a letter and the mark after it. -/
def composed? (c mark : Char) : Option Char :=
  if mark.toNat < 0x300 then none
  else (composedForms.find? fun e => e.1 == c.toNat && e.2.1 == mark.toNat).map
    fun e => Char.ofNat e.2.2

/-- The characters with each mark joined to the letter before it where the two have one letter.
    `c` is the last letter so far. -/
def composeAfter (c : Char) : List Char → List Char
  | [] => [c]
  | d :: ds =>
    match composed? c d with
    | some e => composeAfter e ds
    | none => c :: composeAfter d ds

/-- The characters with letters and marks joined. -/
def compose : List Char → List Char
  | [] => []
  | c :: cs => composeAfter c cs

/-- The characters of a domain in their one form. -/
def normalForm? (cs : List Char) : Option (List Char) :=
  (cs.mapM domainForm?).map fun forms => compose forms.flatten

/-! ## 2. Labels -/

/-- The mark of a label in ASCII that stands for other characters. -/
def aceMark : List Char := ['x', 'n', '-', '-']

/-- All characters are ASCII. -/
def isAscii (cs : List Char) : Bool := cs.all fun c => c.toNat < 0x80

/-- A label does not start with a mark that extends a character. -/
def startsWell : List Char → Bool
  | [] => true
  | c :: _ => !Text.isMark c

/-- A label that came with the mark: it stands for characters in their one form, not all of them
    ASCII. -/
def isWrittenOut (rest : List Char) : Bool :=
  match Punycode.decode? rest with
  | none => false
  | some cs =>
    !isAscii cs && startsWell cs && normalForm? cs == some cs && Punycode.encode cs == rest

/-- The ASCII form of a label in its one form. -/
def asciiLabel? (label : List Char) : Option (List Char) :=
  match Text.after? aceMark label with
  | some rest => if isAscii label && isWrittenOut rest then some label else none
  | none =>
    if isAscii label then some label
    else if startsWell label then some (aceMark ++ Punycode.encode label)
    else none

/-- A character of ASCII that no domain holds. -/
def isForbiddenInDomain (c : Char) : Bool :=
  c.toNat ≤ 0x20 || c.toNat == 0x7F || "%#/:<>?@[\\]^|".toList.contains c

/-- The ASCII form of a domain. -/
def asciiDomain? (cs : List Char) : Option (List Char) := do
  let cs ← normalForm? cs
  let labels ← (cs.splitOn '.').mapM asciiLabel?
  let domain := ['.'].intercalate labels
  if domain.any isForbiddenInDomain then none else some domain

end DaprHosting.Url
