import DaprHosting.OrderedMap
import DaprHosting.Text.Ascii

/-!
# Configuration settings

Settings come as an ordered map of strings. The keys that decisions are made on have fields of
their own; all others are carried through as they are, in their order. `Settings.ofMap` lifts the
known keys and `Settings.toMap` writes the map again: first the three texts, then the three flags,
then the rest.
-/

namespace DaprHosting

/-! ## 1. The known keys -/

namespace Settings

/-- The kind of the cluster. -/
def clusterTypeKey : String := "global.clusterType"

/-- Whether the control plane runs in several copies. -/
def haEnabledKey : String := "global.ha.enabled"

/-- Whether to look for an existing release at all. -/
def skipExistingCheckKey : String := "skipExistingDaprCheck"

/-- The name of an existing release. -/
def existingReleaseNameKey : String := "existingDaprReleaseName"

/-- The namespace of an existing release. -/
def existingReleaseNamespaceKey : String := "existingDaprReleaseNamespace"

/-- Whether the hook applies the resource definitions. -/
def applyCrdsHookKey : String := "hooks.applyCrds"

end Settings

/-- Settings with the known keys in fields of their own. -/
structure Settings where
  clusterType : Option String := none
  haEnabled : Option Bool := none
  skipExistingCheck : Option Bool := none
  existingReleaseName : Option String := none
  existingReleaseNamespace : Option String := none
  applyCrdsHook : Option Bool := none
  /-- The settings that no decision is made on. -/
  extra : OrderedMap String := .empty
deriving DecidableEq

namespace Settings

instance : Inhabited Settings := ⟨{}⟩

/-- A flag whose value is neither true nor false. -/
structure Fault where
  key : String
  value : String
deriving DecidableEq, Repr

/-- What is told of a flag that is neither true nor false. -/
def Fault.message (f : Fault) : String :=
  "configuration setting '" ++ f.key ++ "' must be 'true' or 'false', got '" ++ f.value ++ "'"

/-! ## 2. From the map -/

/-- The truth value that a text is, in any case of its letters. -/
def flag? (value : String) : Option Bool :=
  if Text.sameIgnoringCase value "true" then some true
  else if Text.sameIgnoringCase value "false" then some false
  else none

/-- The flag under a key. -/
def flag (key value : String) : Except Fault Bool :=
  match flag? value with
  | some b => .ok b
  | none => .error ⟨key, value⟩

/-- The settings with one entry of the map added. -/
def put (s : Settings) (key value : String) : Except Fault Settings :=
  if key = clusterTypeKey then .ok { s with clusterType := some value }
  else if key = haEnabledKey then
    (flag key value).map fun b => { s with haEnabled := some b }
  else if key = skipExistingCheckKey then
    (flag key value).map fun b => { s with skipExistingCheck := some b }
  else if key = existingReleaseNameKey then .ok { s with existingReleaseName := some value }
  else if key = existingReleaseNamespaceKey then
    .ok { s with existingReleaseNamespace := some value }
  else if key = applyCrdsHookKey then
    (flag key value).map fun b => { s with applyCrdsHook := some b }
  else .ok { s with extra := s.extra.insert key value }

/-- The entries added one after the other. -/
def putAll (s : Settings) : List (String × String) → Except Fault Settings
  | [] => .ok s
  | (k, v) :: es =>
    match s.put k v with
    | .ok s => s.putAll es
    | .error f => .error f

/-- The settings that a map holds; the first flag in its order that is neither true nor false is
    the error. -/
def ofMap (m : OrderedMap String) : Except Fault Settings := putAll {} m.entries

/-! ## 3. To the map -/

/-- The text of a flag. -/
def flagText (b : Bool) : String := if b then "true" else "false"

/-- The entry of a known key that is set. -/
def entryOf (key : String) (value : Option String) : List (String × String) :=
  match value with
  | none => []
  | some v => [(key, v)]

/-- The entries of the known keys that are set, in the order in which they are written. -/
def knownEntries (s : Settings) : List (String × String) :=
  entryOf clusterTypeKey s.clusterType ++
  entryOf existingReleaseNameKey s.existingReleaseName ++
  entryOf existingReleaseNamespaceKey s.existingReleaseNamespace ++
  entryOf haEnabledKey (s.haEnabled.map flagText) ++
  entryOf skipExistingCheckKey (s.skipExistingCheck.map flagText) ++
  entryOf applyCrdsHookKey (s.applyCrdsHook.map flagText)

/-- The map of the settings. -/
def toMap (s : Settings) : OrderedMap String :=
  OrderedMap.ofList (s.knownEntries ++ s.extra.entries)

/-- Nothing is set. -/
def isEmpty (s : Settings) : Bool :=
  s.clusterType.isNone && s.haEnabled.isNone && s.skipExistingCheck.isNone &&
  s.existingReleaseName.isNone && s.existingReleaseNamespace.isNone &&
  s.applyCrdsHook.isNone && s.extra.isEmpty

end Settings

end DaprHosting
