import DaprHosting.Toml.Basic

/-!
# Tables under construction

While a document is read, each table remembers how it came about: only implied by a longer header,
by a header of its own, or by a key with points. That decides whether it may be written to again.
A header completes a table that was only implied; a key with points may add to a table that was
implied or came from such keys; nothing adds to a value.
-/

namespace DaprHosting.Toml

/-! ## 1. Nodes -/

/-- How a table came about. -/
inductive Origin where
  | implied | header | dotted
deriving DecidableEq, Repr

/-- What stands under a name. -/
inductive Node where
  | value (v : Toml)
  | table (origin : Origin) (members : List (String × Node))
  | tables (elements : List (List (String × Node)))

/-- The members of a table. -/
abbrev Members : Type := List (String × Node)

/-- What stands under a name, if anything does. -/
def find? (name : String) : Members → Option Node
  | [] => none
  | (k, n) :: rest => if k = name then some n else find? name rest

/-- The members with a name set, at its place or at the end. -/
def put (name : String) (node : Node) : Members → Members
  | [] => [(name, node)]
  | (k, n) :: rest => if k = name then (k, node) :: rest else (k, n) :: put name node rest

/-! ## 2. Keys -/

/-- A value set under a key, from the table that the key is written in. -/
def assign : List String → Toml → Members → Option Members
  | [], _, _ => none
  | [k], v, ms =>
    match find? k ms with
    | none => some (put k (.value v) ms)
    | some _ => none
  | k :: k' :: ks, v, ms =>
    match find? k ms with
    | none => (assign (k' :: ks) v []).map fun inner => put k (.table .dotted inner) ms
    | some (.table .header _) => none
    | some (.table origin inner) =>
      (assign (k' :: ks) v inner).map fun inner => put k (.table origin inner) ms
    | some _ => none

/-! ## 3. Headers -/

/-- The members changed at the end of a path that headers have opened: a path leads into the last
    table of an array of tables. -/
def within (change : Members → Option Members) : List String → Members → Option Members
  | [], ms => change ms
  | k :: ks, ms =>
    match find? k ms with
    | none => (within change ks []).map fun inner => put k (.table .implied inner) ms
    | some (.table origin inner) =>
      (within change ks inner).map fun inner => put k (.table origin inner) ms
    | some (.tables elements) =>
      match elements.reverse with
      | [] => none
      | last :: before =>
        (within change ks last).map fun last => put k (.tables (before.reverse ++ [last])) ms
    | some (.value _) => none

/-- A table opened by a header under the last name of its path. -/
def openTable (name : String) (ms : Members) : Option Members :=
  match find? name ms with
  | none => some (put name (.table .header []) ms)
  | some (.table .implied inner) => some (put name (.table .header inner) ms)
  | some _ => none

/-- One more table in an array of tables. -/
def openElement (name : String) (ms : Members) : Option Members :=
  match find? name ms with
  | none => some (put name (.tables [[]]) ms)
  | some (.tables elements) => some (put name (.tables (elements ++ [[]])) ms)
  | some _ => none

/-! ## 4. Values -/

mutual

/-- The value of a node. -/
def Node.toToml : Node → Toml
  | .value v => v
  | .table _ ms => .table (membersToToml ms)
  | .tables es => .array (elementsToToml es)

/-- The entries of members. -/
def membersToToml : List (String × Node) → List (String × Toml)
  | [] => []
  | (k, n) :: ms => (k, n.toToml) :: membersToToml ms

/-- The tables of an array. -/
def elementsToToml : List (List (String × Node)) → List Toml
  | [] => []
  | ms :: es => .table (membersToToml ms) :: elementsToToml es

end

end DaprHosting.Toml
