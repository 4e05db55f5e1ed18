import DaprHosting.Json.Settled

/-!
# Resources

A resource as a control plane returns it. Only its id and its name mean something here; every
other member is carried through, each name once. The members stand here in the order in which they
came first. The program keeps them sorted by name instead, at every depth. Nothing that it does with
a resource depends on their order: it can be seen only in the text of a resource written again.
-/

namespace DaprHosting

/-! ## 1. The type -/

/-- A resource. -/
structure Resource where
  id : Option String := none
  name : Option String := none
  properties : OrderedMap Json := .empty

namespace Resource

instance : Inhabited Resource := ⟨{}⟩

/-- A resource of which only the id is known. -/
def withId (id : String) : Resource := { id := some id }

/-- The id that counts: an empty one is as good as none. -/
def effectiveId (r : Resource) : Option String :=
  match r.id with
  | some "" => none
  | id => id

/-- The id that counts is one that is written and not empty. -/
theorem effectiveId_eq_some_iff {r : Resource} {id : String} :
    r.effectiveId = some id ↔ r.id = some id ∧ id ≠ "" := by
  unfold effectiveId
  split
  · rename_i h
    rw [h]
    constructor
    · intro h'
      cases h'
    · rintro ⟨h', hne⟩
      exact absurd (Option.some.inj h').symm hne
  · rename_i h
    exact ⟨fun h' => ⟨h', fun e => h (e ▸ h')⟩, fun h' => h'.1⟩

/-! ## 2. Documents -/

/-- How deep a document may be nested. -/
def maxDepth : Nat := 127

/-- What has been read of a resource: id and name are remembered together with whether they were
    written, since neither may be written twice. -/
structure Draft where
  id : Option (Option String) := none
  name : Option (Option String) := none
  properties : OrderedMap Json := .empty

/-- One member added. -/
def Draft.add? (d : Draft) (key : String) (value : Json) : Option Draft :=
  if key = "id" then
    if d.id.isSome then none
    else (Json.nullable Json.string? value).map fun id => { d with id := some id }
  else if key = "name" then
    if d.name.isSome then none
    else (Json.nullable Json.string? value).map fun name => { d with name := some name }
  else value.settle?.map fun v => { d with properties := d.properties.insert key v }

/-- The members added one after the other. -/
def Draft.addAll? (d : Draft) : List (String × Json) → Option Draft
  | [] => some d
  | (k, v) :: ms => (d.add? k v).bind fun d => d.addAll? ms

/-- The resource that a document describes. -/
def ofJson? (j : Json) : Option Resource :=
  if maxDepth < j.depth then none
  else
    j.members?.bind fun ms =>
      (Draft.addAll? {} ms).map fun d => ⟨d.id.join, d.name.join, d.properties⟩

/-- The document of a resource: id and name first, when it has them. -/
def toJson (r : Resource) : Json :=
  .object (Json.member? "id" .string r.id ++ Json.member? "name" .string r.name ++
    r.properties.entries)

end Resource

end DaprHosting
