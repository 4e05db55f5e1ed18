import DaprHosting.Backing.Kind
import DaprHosting.Extension
import DaprHosting.Log
import DaprHosting.Text.Ascii

/-!
# Choices

A value of a closed set is chosen by its name. Names are compared as they are written, or without
regard to the case of ASCII letters.
-/

namespace DaprHosting

/-- A closed set of named values. -/
structure Choice (α : Type) where
  all : List α
  name : α → String

namespace Choice

/-- The value of a name. -/
def ofName? {α : Type} (c : Choice α) (text : String) : Option α :=
  c.all.find? fun a => c.name a == text

/-- The value of a name in any case of its letters. -/
def ofNameIgnoringCase? {α : Type} (c : Choice α) (text : String) : Option α :=
  c.all.find? fun a => Text.sameIgnoringCase (c.name a) text

/-- The kinds of service. -/
def service : Choice ServiceKind := ⟨ServiceKind.all, ServiceKind.name⟩

/-- The kinds of component. -/
def component : Choice ComponentKind := ⟨ComponentKind.all, ComponentKind.name⟩

/-- The kinds of scope. -/
def scope : Choice ScopeKind := ⟨ScopeKind.all, ScopeKind.name⟩

/-- The levels of the log. -/
def logLevel : Choice Log.Level := ⟨Log.Level.all, Log.Level.name⟩

/-- The forms of the log. -/
def logFormat : Choice Log.Format := ⟨Log.Format.all, Log.Format.name⟩

end Choice

end DaprHosting
