import DaprHosting.Json.Basic
import DaprHosting.OrderedMap

/-!
# Documents kept as data

A document that is stored and written again keeps each name once, with its last value, and no part
of it may denote nothing. Such documents are limited in their depth. The first place of a name is
its place here; the program keeps the names of an object sorted. Two documents that differ in this
alone are the same to whoever reads them.
-/

namespace DaprHosting.Json

/-! ## 1. Depth -/

mutual

/-- How deep containers are nested, the value itself included. -/
def depth : Json → Nat
  | .array js => depthElements js + 1
  | .object ms => depthMembers ms + 1
  | _ => 0

/-- The greatest depth among elements. -/
def depthElements : List Json → Nat
  | [] => 0
  | j :: js => max (depth j) (depthElements js)

/-- The greatest depth among members. -/
def depthMembers : List (String × Json) → Nat
  | [] => 0
  | (_, j) :: ms => max (depth j) (depthMembers ms)

end

/-! ## 2. Each name once -/

mutual

/-- The value with each name once, at its first place, where the program would sort the names, and
    with its last value; none when some part of it denotes nothing. -/
def settle? : Json → Option Json
  | .array js => (settleElements? js).map .array
  | .object ms => (settleMembers? ms).map fun ms => .object (OrderedMap.ofList ms).entries
  | .void => none
  | j => some j

/-- Every element settled. -/
def settleElements? : List Json → Option (List Json)
  | [] => some []
  | j :: js => do return (← settle? j) :: (← settleElements? js)

/-- Every member settled, repetitions still in place. -/
def settleMembers? : List (String × Json) → Option (List (String × Json))
  | [] => some []
  | (k, j) :: ms => do return (k, ← settle? j) :: (← settleMembers? ms)

end

end DaprHosting.Json
