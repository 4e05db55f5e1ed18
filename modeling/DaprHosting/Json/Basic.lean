import DaprHosting.Decimal.Shortest

/-!
# JSON documents

A document keeps its members in the order of the text, a repeated name included: what a repetition
means is for the reader of a particular document to say. Three kinds of value are grammatical and
still denote nothing: a number no double reaches, a string with half of a surrogate pair, an
object one of whose names is such a string. They are the leaf `void`; it may stand wherever a
document is only skipped over, and nothing can be read from it.
-/

namespace DaprHosting

open Decimal (Binary64)

/-! ## 1. The type -/

/-- A number of a document: an integer of 64 bits, with or without a sign, or else a double. -/
inductive Json.Number where
  | integer (n : Int)
  | float (x : Binary64)
deriving DecidableEq, Repr, Inhabited

/-- A JSON value. -/
inductive Json where
  | null
  | bool (b : Bool)
  | number (n : Json.Number)
  | string (s : String)
  | array (elements : List Json)
  | object (members : List (String × Json))
  | void
deriving Inhabited, Repr

namespace Json

/-- An integer as a value. -/
def ofInt (n : Int) : Json := .number (.integer n)

/-- A natural number as a value. -/
def ofNat (n : Nat) : Json := ofInt n

/-- A value that may be absent, written `null` then. -/
def ofOption {α : Type} (write : α → Json) : Option α → Json
  | none => .null
  | some a => write a

/-- A string that may be absent. -/
def ofString? : Option String → Json := ofOption .string

/-- An ordered list of strings under names, as an object. -/
def ofStrings (entries : List (String × String)) : Json :=
  .object (entries.map fun e => (e.1, .string e.2))

/-- The member of a list, kept only when there is one. -/
def member? {α : Type} (name : String) (write : α → Json) : Option α → List (String × Json)
  | none => []
  | some a => [(name, write a)]

/-! ## 2. Views -/

/-- The string that the value is. -/
def string? : Json → Option String
  | .string s => some s
  | _ => none

/-- The truth value that the value is. -/
def bool? : Json → Option Bool
  | .bool b => some b
  | _ => none

/-- The members of an object. -/
def members? : Json → Option (List (String × Json))
  | .object ms => some ms
  | _ => none

/-- The value of a list element or member, read by `read` unless it is `null`. -/
def nullable {α : Type} (read : Json → Option α) : Json → Option (Option α)
  | .null => some none
  | j => (read j).map some

end Json

end DaprHosting
