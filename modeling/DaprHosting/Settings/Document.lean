import DaprHosting.Json.Fields
import DaprHosting.Settings

/-!
# Settings as documents

The settings as an object of strings, in the order in which they are written.
-/

namespace DaprHosting.Settings

/-- The document of settings. -/
def toJson (s : Settings) : Json := Json.ofStrings s.toMap.entries

/-- The settings that a document describes. -/
def ofJson? (j : Json) : Option Settings :=
  j.stringMap?.bind fun m => (ofMap m).toOption

end DaprHosting.Settings
