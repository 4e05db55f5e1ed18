import DaprHosting.OrderedMap
import DaprHosting.Text.Quoted

/-!
# Values as they are shown

An event can show a whole value to whoever looks for a fault: its name and its parts, each part on
a line of its own and set in by four blanks. A secret is shown as the same word whatever it is.
-/

namespace DaprHosting.Log

/-! ## 1. The type -/

/-- What is shown of a value. -/
inductive Shown where
  /-- A word that stands for itself. -/
  | word (text : String)
  /-- The name of a value with one part. -/
  | wrapped (name : String) (part : Shown)
  /-- The name of a value and the names of its parts. -/
  | record (name : String) (parts : List (String × Shown))
  /-- The entries of a map. -/
  | map (entries : List (String × Shown))

namespace Shown

/-- A text, in quotes. -/
def text (s : String) : Shown := .word (Text.quoted s)

/-- A truth value. -/
def flag (b : Bool) : Shown := .word (if b then "true" else "false")

/-- A value that may be missing. -/
def optional {α : Type} (ofValue : α → Shown) : Option α → Shown
  | none => .word "None"
  | some a => .wrapped "Some" (ofValue a)

/-- A value of a closed set, by its name with a capital. -/
def choice (name : String) : Shown := .word (Text.capitalized name)

/-- A secret. -/
def secret (_ : String) : Shown := .word "SecretBox<str>([REDACTED])"

/-- A map of texts, each in the way that `ofValue` says. -/
def ofMap (ofValue : String → Shown) (m : OrderedMap String) : Shown :=
  .map (m.entries.map fun e => (Text.quoted e.1, ofValue e.2))

/-! ## 2. The layout -/

/-- How far a part is set in. -/
def margin : String := "    "

mutual

/-- The text of a value whose lines after the first stand behind `indent`. -/
def prettyAt (indent : String) : Shown → String
  | .word text => text
  | .wrapped name part =>
    name ++ "(\n" ++ indent ++ margin ++ prettyAt (indent ++ margin) part ++ ",\n" ++ indent ++ ")"
  | .record name parts => name ++ " \x7b\n" ++ partsAt (indent ++ margin) parts ++ indent ++ "\x7d"
  | .map [] => "\x7b\x7d"
  | .map (e :: es) => "\x7b\n" ++ partsAt (indent ++ margin) (e :: es) ++ indent ++ "\x7d"

/-- The lines of named parts. -/
def partsAt (indent : String) : List (String × Shown) → String
  | [] => ""
  | (name, part) :: parts =>
    indent ++ name ++ ": " ++ prettyAt indent part ++ ",\n" ++ partsAt indent parts

end

/-- The text of a value. -/
def pretty (s : Shown) : String := s.prettyAt ""

example :
    (record "Logger" [("format", choice "text"), ("names", map [("\"a\"", secret "b")])]).pretty =
      "Logger \x7b\n    format: Text,\n    names: \x7b\n        \"a\": " ++
        "SecretBox<str>([REDACTED]),\n    \x7d,\n\x7d" := by cbv

end Shown

end DaprHosting.Log
