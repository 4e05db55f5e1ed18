import DaprHosting.Json.Printer
import DaprHosting.Log

/-!
# Written events

An event as a line: an object with its level and its fields, or the level, the message and the
fields one after the other.
-/

namespace DaprHosting.Log

/-- A value of a field as it stands in a line. -/
def Value.toJson : Value → Json
  | .text s => .string s
  | .flag b => .bool b
  | .number n => Json.ofNat n

/-- The text of a value. -/
def Value.toText : Value → String
  | .text s => s
  | .flag true => "true"
  | .flag false => "false"
  | .number n => toString n

/-- The name of a level in capitals. -/
def Level.capitals (l : Level) : String := String.ofList (l.name.toList.map Char.toUpper)

/-- The line of an event in the form `json`. -/
def Event.toJson (e : Event) : Json :=
  .object
    [("level", .string e.level.capitals),
     ("fields", .object
       (("message", .string e.message) :: e.fields.map fun f => (f.1, f.2.toJson)))]

/-- The line of an event in the form `text`. -/
def Event.toText (e : Event) : String :=
  e.fields.foldl (fun line f => line ++ " " ++ f.1 ++ "=" ++ f.2.toText)
    (e.level.capitals ++ " " ++ e.message)

/-- An event in the configured format. -/
def Logger.line (logger : Logger) (e : Event) : String :=
  match logger.format with
  | .json => e.toJson.compact
  | .text => e.toText

end DaprHosting.Log
