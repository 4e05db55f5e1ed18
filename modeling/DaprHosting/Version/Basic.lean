/-!
# Versions and their order

A version is three numbers, the identifiers of a pre-release and the identifiers of its build
metadata. The order is total on all five parts: numbers first, then the pre-release, then the
build. A version without a pre-release comes after every one that has it, a version without build
metadata before every one that has it.
-/

namespace DaprHosting

/-! ## 1. Identifiers -/

/-- An identifier: a number with the count of its digits, leading zeros included, or a word that
    has a letter or a hyphen. -/
inductive Version.Identifier where
  | number (value width : Nat)
  | word (letters : List Char)
deriving DecidableEq, Repr

/-- Numbers by value and then by width, words by their letters, numbers before words. -/
def Version.Identifier.order : Identifier → Identifier → Ordering
  | .number v w, .number v' w' => (compare v v').then (compare w w')
  | .number .., .word _ => .lt
  | .word _, .number .. => .gt
  | .word a, .word b => compare a b

/-! ## 2. Versions -/

/-- A version; a missing pre-release or build part is the empty list. -/
structure Version where
  major : Nat
  minor : Nat
  patch : Nat
  pre : List Version.Identifier := []
  build : List Version.Identifier := []
deriving DecidableEq, Repr

namespace Version

/-- Identifier by identifier; no pre-release comes last. -/
def preOrder : List Identifier → List Identifier → Ordering
  | [], [] => .eq
  | [], _ :: _ => .gt
  | _ :: _, [] => .lt
  | a :: as, b :: bs => List.compareLex Identifier.order (a :: as) (b :: bs)

/-- The order of versions. -/
def order (a b : Version) : Ordering :=
  (compare a.major b.major).then <|
  (compare a.minor b.minor).then <|
  (compare a.patch b.patch).then <|
  (preOrder a.pre b.pre).then <|
  List.compareLex Identifier.order a.build b.build

/-- Strictly earlier. -/
def before (a b : Version) : Bool := (a.order b).isLT

end Version

end DaprHosting
