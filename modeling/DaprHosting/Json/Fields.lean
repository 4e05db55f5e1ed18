import DaprHosting.Json.Basic
import DaprHosting.OrderedMap

/-!
# Records in documents

A record is written as an object of its fields, or as an array of them in order. In an object a
member that is no field is skipped, a field may be missing, and no field stands twice. An array
has a value for every field; where a record allows it, the last ones may be left out.
-/

namespace DaprHosting.Json

/-! ## 1. Fields -/

/-- How often a name stands among members. -/
def occurrences (name : String) (ms : List (String × Json)) : Nat :=
  (ms.filter fun m => m.1 == name).length

/-- The values of the named fields of a record, each where it is written. -/
def fields? (names : List String) (mayEndEarly : Bool) : Json → Option (List (Option Json))
  | .object ms =>
    if names.all fun name => occurrences name ms ≤ 1 then
      some (names.map fun name => entry? name ms)
    else none
  | .array js =>
    if js.length = names.length ∨ (mayEndEarly ∧ js.length < names.length) then
      some (js.map some ++ List.replicate (names.length - js.length) none)
    else none
  | _ => none

/-! ## 2. Values of fields -/

/-- A field that has a value of its own when it is not written. -/
def fieldOr {α : Type} (absent : α) (read : Json → Option α) : Option Json → Option α
  | none => some absent
  | some j => read j

/-- A field that may be missing or `null`. -/
def optional {α : Type} (read : Json → Option α) : Option Json → Option (Option α) :=
  fieldOr none (nullable read)

/-- The entry of a member with a string value. -/
def stringEntry? (m : String × Json) : Option (String × String) := m.2.string?.map (m.1, ·)

/-- A map of strings: an object, a repeated name at its first place and with its last value. -/
def stringMap? : Json → Option (OrderedMap String)
  | .object ms => (ms.mapM stringEntry?).map OrderedMap.ofList
  | _ => none

/-- A map of strings; `null` is the empty one. -/
def strings? : Json → Option (OrderedMap String)
  | .null => some .empty
  | j => j.stringMap?

end DaprHosting.Json
