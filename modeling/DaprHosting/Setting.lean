import DaprHosting.Text.Ascii
import DaprHosting.Text.Blank

/-!
# Single settings

A setting is a key and a value. An operator writes it as `KEY=VALUE`: the text before the first
`=` is the key, trimmed and not blank, and everything after it is the value as it stands.
-/

namespace DaprHosting

/-! ## 1. The type -/

/-- A setting. -/
structure Setting where
  key : String
  value : String
deriving DecidableEq, Repr

namespace Setting

/-- Why a text or a pair is no setting. -/
inductive Fault where
  /-- There is no `=` in the text. -/
  | notAssignment (text : String)
  /-- Nothing is left of the key when it is trimmed. -/
  | blankKey (key : String)
deriving DecidableEq, Repr

/-- What is told of a text that is no setting. -/
def Fault.message : Fault → String
  | .notAssignment text => "expected KEY=VALUE, got '" ++ text ++ "'"
  | .blankKey key => "empty setting key in '" ++ key ++ "'"

/-! ## 2. Reading -/

/-- The setting of a key as written and a value. -/
def ofPair (key value : String) : Except Fault Setting :=
  match Text.nonBlank? key with
  | some k => .ok ⟨k, value⟩
  | none => .error (.blankKey key)

/-- The setting that a text writes as `KEY=VALUE`. -/
def ofAssignment (text : String) : Except Fault Setting :=
  match Text.cutAt '=' text.toList with
  | (key, some value) => ofPair (String.ofList key) (String.ofList value)
  | (_, none) => .error (.notAssignment text)

/-- Key and value. -/
def toPair (s : Setting) : String × String := (s.key, s.value)

end Setting

end DaprHosting
