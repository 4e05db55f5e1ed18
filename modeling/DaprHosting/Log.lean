/-!
# Log events

An event has a level, a message and named fields. The events of a run are a list, so what is
logged is part of what a run is compared by. Which of them are shown depends on the configured
level and format.
-/

namespace DaprHosting.Log

/-! ## 1. Levels and formats -/

/-- The levels, from the most talkative to the most severe. -/
inductive Level where
  | trace | debug | info | warn | error
deriving DecidableEq, Repr

namespace Level

/-- Every level. -/
def all : List Level := [.trace, .debug, .info, .warn, .error]

/-- The word for a level. -/
def name : Level → String
  | .trace => "trace"
  | .debug => "debug"
  | .info => "info"
  | .warn => "warn"
  | .error => "error"

/-- The place in the order of severity. -/
def severity : Level → Nat
  | .trace => 0
  | .debug => 1
  | .info => 2
  | .warn => 3
  | .error => 4

end Level

/-- How events are written: lines for a reader, or one JSON object a line. -/
inductive Format where
  | text | json
deriving DecidableEq, Repr

namespace Format

/-- Every format. -/
def all : List Format := [.text, .json]

/-- The word for a form. -/
def name : Format → String
  | .text => "text"
  | .json => "json"

end Format

/-- The resolved settings of logging. -/
structure Logger where
  format : Format := .text
  level : Level := .info
deriving DecidableEq, Repr

/-! ## 2. Events -/

/-- The value of a field. -/
inductive Value where
  | text (s : String)
  | flag (b : Bool)
  | number (n : Nat)
deriving DecidableEq, Repr

/-- An event. -/
structure Event where
  level : Level
  message : String
  fields : List (String × Value) := []
deriving DecidableEq, Repr

/-- An event is let through when it is at least as severe as the configured level. -/
def Logger.admits (logger : Logger) (e : Event) : Bool :=
  logger.level.severity ≤ e.level.severity

end DaprHosting.Log
