import DaprHosting.Duration

/-!
# Request timeouts

The deadline of each request, never zero. A bare number is a count of seconds; everything else is
read as a duration.
-/

namespace DaprHosting

/-- A deadline. -/
structure RequestTimeout where
  duration : Duration
  ne_zero : duration ≠ .zero

namespace RequestTimeout

instance : DecidableEq RequestTimeout := fun a b =>
  if h : a.duration = b.duration then isTrue (by cases a; cases b; cases h; rfl)
  else isFalse fun e => h (by rw [e])

/-- Why there is no deadline. -/
inductive Fault where
  | invalid (cause : Duration.Fault)
  | zero
  /-- The program stopped while it read the text. -/
  | stopped
deriving DecidableEq, Repr

/-- What is told of a text that is no timeout, or with which words the program stops. -/
def Fault.message : Fault → String
  | .invalid cause => "invalid request timeout: " ++ cause.message
  | .zero => "request timeout must be greater than zero"
  | .stopped => Duration.Fault.message .stopped

/-- Why a text that is no duration is no deadline either. -/
def Fault.ofCause : Duration.Fault → Fault
  | .stopped => .stopped
  | cause => .invalid cause

/-- The deadline of a duration. -/
def ofDuration (d : Duration) : Except Fault RequestTimeout :=
  if h : d ≠ .zero then .ok ⟨d, h⟩ else .error .zero

/-- The deadline of so many seconds. -/
def ofSeconds (n : Nat) : Except Fault RequestTimeout := ofDuration ⟨n, 0⟩

/-- Half a minute, unless something else is said. -/
def default : RequestTimeout := ⟨⟨30, 0⟩, by decide⟩

/-- The count that a bare number of 64 bits writes; it may have a plus. -/
def seconds? (cs : List Char) : Option Nat :=
  let ds := match cs with
    | '+' :: r => r
    | r => r
  if ds = [] then none
  else (Text.numeral? 10 ds).bind fun n => if n ≤ Word.max64 then some n else none

/-- The deadline that a text writes. -/
def read (s : String) : Except Fault RequestTimeout :=
  let cs := Text.trimChars s.toList
  match seconds? cs with
  | some n => ofSeconds n
  | none =>
    match Duration.ofChars cs with
    | .ok d => ofDuration d
    | .error f => .error (.ofCause f)

end RequestTimeout

end DaprHosting
