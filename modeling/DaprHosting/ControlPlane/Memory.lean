import DaprHosting.ControlPlane.Basic

/-!
# A control plane in memory

Two stores, one of services and one of components, each from names to resources. A lookup answers
what is stored. A creation stores a resource under the name, unless the outcome arranged for the
call says otherwise: then the lookup denies or fails, the creation fails, is accepted with an
empty answer, or stores a given resource.
-/

namespace DaprHosting.Memory

/-! ## 1. Stores -/

/-- The resources of the control plane. -/
structure Stores where
  services : OrderedMap Resource := .empty
  components : OrderedMap Resource := .empty

instance : Inhabited Stores := ⟨{}⟩

/-! ## 2. Arranged outcomes -/

/-- What a lookup answers. -/
inductive Showing where
  | stored
  | absent
  | fails (error : ClientError)

/-- What a creation does. -/
inductive Creating where
  | accepted
  | empty
  | returns (resource : Resource)
  | fails (error : ClientError)

/-- The outcome of each call. -/
structure Arrangement where
  showService : Showing := .stored
  createService : Creating := .accepted
  showComponent : Showing := .stored
  createComponent : Creating := .accepted

instance : Inhabited Arrangement := ⟨{}⟩

/-! ## 3. The control plane -/

/-- A lookup in a store. -/
def look (store : OrderedMap Resource) (name : String) : Showing → Except ClientError Lookup
  | .stored => .ok ((store.get? name).elim .absent .found)
  | .absent => .ok .absent
  | .fails e => .error e

/-- A creation in a store: the answer and the store after it. -/
def make (store : OrderedMap Resource) (name : String) (fresh : Resource) :
    Creating → Except ClientError (Option Resource) × OrderedMap Resource
  | .accepted => (.ok (some fresh), store.insert name fresh)
  | .empty => (.ok none, store)
  | .returns r => (.ok (some r), store.insert name r)
  | .fails e => (.error e, store)

/-- The control plane over the stores under an arrangement of outcomes. A resource it makes itself
    has the name of its store and its own name as id. -/
def plane (arranged : Arrangement) : ControlPlane Stores where
  environmentId group environment := "/rg/" ++ group ++ "/env/" ++ environment
  showService _ name := fun s => ⟨look s.services name arranged.showService, s, []⟩
  createService _ _ name _ := fun s =>
    let made := make s.services name (.withId ("/services/" ++ name)) arranged.createService
    ⟨made.1, { s with services := made.2 }, []⟩
  showComponent _ _ name := fun s => ⟨look s.components name arranged.showComponent, s, []⟩
  createComponent _ _ name _ := fun s =>
    let made := make s.components name (.withId ("/components/" ++ name)) arranged.createComponent
    ⟨made.1, { s with components := made.2 }, []⟩

end DaprHosting.Memory
