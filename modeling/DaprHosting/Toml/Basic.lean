import DaprHosting.Decimal.Shortest

/-!
# TOML values

A document is a table; a table keeps its entries in their order, each name once. An integer that
64 bits do not hold with a sign is kept as it is; a number that no reader could take, an integer
beyond 64 bits or a float beyond the greatest double, is `unreadable` and kept as a text.
-/

namespace DaprHosting

open Decimal (Binary64)

/-- A value. -/
inductive Toml where
  | string (s : String)
  | integer (n : Int)
  | float (x : Binary64)
  | boolean (b : Bool)
  | datetime (text : String)
  | array (elements : List Toml)
  | table (entries : List (String × Toml))
  | unreadable (number : String)
deriving Inhabited, Repr

namespace Toml

/-- The value under a name. -/
def entry? (name : String) : List (String × Toml) → Option Toml
  | [] => none
  | (k, v) :: rest => if k = name then some v else entry? name rest

mutual

/-- The first number in the value that cannot be read. -/
def unreadable? : Toml → Option String
  | .unreadable number => some number
  | .array vs => elementsUnreadable? vs
  | .table es => entriesUnreadable? es
  | _ => none

/-- The first number in the elements that cannot be read. -/
def elementsUnreadable? : List Toml → Option String
  | [] => none
  | v :: vs => (unreadable? v).or (elementsUnreadable? vs)

/-- The first number in the entries that cannot be read. -/
def entriesUnreadable? : List (String × Toml) → Option String
  | [] => none
  | (_, v) :: es => (unreadable? v).or (entriesUnreadable? es)

end

end Toml

end DaprHosting
