import DaprHosting.Text.Ascii
import DaprHosting.Text.Blank
import DaprHosting.Text.Utf8
import DaprHosting.Word

/-!
# Durations

A duration is a count of seconds and a count of nanoseconds below one second. It is written as
numbers with units, `1h 30min` or `1.5s`, one after the other, and means their sum. White space
may stand anywhere between numbers and units and inside a number. What does not fit is refused,
never wrapped and never cut off, but for one sum: 2 ^ 64 seconds that the nanoseconds fill up to
the last one stop the program.
-/

namespace DaprHosting

/-! ## 1. The type -/

/-- A duration. -/
structure Duration where
  seconds : Nat
  nanos : Nat
deriving DecidableEq, Repr, Inhabited

namespace Duration

/-- Nanoseconds in a second. -/
def perSecond : Nat := 1000000000

/-- No time at all. -/
def zero : Duration := ⟨0, 0⟩

/-- The length in nanoseconds. -/
def toNanos (d : Duration) : Nat := d.seconds * perSecond + d.nanos

/-! ## 2. Units -/

/-- A unit of time. -/
inductive TimeUnit where
  | nanosecond | microsecond | millisecond | second | minute | hour | day | week | month | year
deriving DecidableEq, Repr

/-- The names of a unit. -/
def TimeUnit.names : TimeUnit → List String
  | .nanosecond => ["nanos", "nsec", "ns"]
  | .microsecond => ["usec", "us", "µs"]
  | .millisecond => ["millis", "msec", "ms"]
  | .second => ["seconds", "second", "secs", "sec", "s"]
  | .minute => ["minutes", "minute", "min", "mins", "m"]
  | .hour => ["hours", "hour", "hrs", "hr", "h"]
  | .day => ["days", "day", "d"]
  | .week => ["weeks", "week", "wks", "wk", "w"]
  | .month => ["months", "month", "M"]
  | .year => ["years", "year", "yrs", "yr", "y"]

/-- Every unit. -/
def TimeUnit.all : List TimeUnit :=
  [.nanosecond, .microsecond, .millisecond, .second, .minute, .hour, .day, .week, .month, .year]

/-- The unit of a name. -/
def TimeUnit.ofName? (name : String) : Option TimeUnit :=
  TimeUnit.all.find? fun u => u.names.contains name

/-- The length of a unit: so many nanoseconds when it is shorter than a second, or else so many
    seconds. A month is 30.44 days, a year 365.25. -/
def TimeUnit.length : TimeUnit → Sum Nat Nat
  | .nanosecond => .inl 1
  | .microsecond => .inl 1000
  | .millisecond => .inl 1000000
  | .second => .inr 1
  | .minute => .inr 60
  | .hour => .inr 3600
  | .day => .inr 86400
  | .week => .inr 604800
  | .month => .inr 2630016
  | .year => .inr 31557600

/-- What a fraction of the unit is counted in. Up to the minute it is nanoseconds, from the hour on
    whole seconds; a nanosecond has no fractions. -/
def TimeUnit.grain : TimeUnit → Option (Sum Nat Nat)
  | .nanosecond => none
  | .second => some (.inl perSecond)
  | .minute => some (.inl (60 * perSecond))
  | u => some u.length

/-! ## 3. Faults -/

/-- Why a text is no duration. Places are counted in bytes. -/
inductive Fault where
  | empty
  | numberExpected (place : Nat)
  | invalidCharacter (place : Nat)
  | unitNeeded (count : Nat)
  | unknownUnit (name : String)
  | tooLarge
  /-- A whole second is carried over to seconds that have no room for it. Nobody is told what is
      wrong with the text: the program stops. -/
  | stopped
deriving DecidableEq, Repr

/-- What is told of a text that is no duration, or with which words the program stops. -/
def Fault.message : Fault → String
  | .empty => "value was empty"
  | .numberExpected place => "expected number at " ++ toString place
  | .invalidCharacter place => "invalid character at " ++ toString place
  | .unitNeeded n =>
    "time unit needed, for example " ++ toString n ++ "sec or " ++ toString n ++ "ms"
  | .unknownUnit name =>
    "unknown time unit \"" ++ name ++ "\", supported units: ns, us/µs, ms, sec, min, hours, " ++
    "days, weeks, months, years (and few variations)"
  | .tooLarge =>
    "number is too large or cannot be represented without a lack of precision (values below 1ns " ++
    "are not supported)"
  | .stopped => "overflow in Duration::new"

/-! ## 4. Sums -/

/-- The number, when 64 bits hold it. -/
def fit (n : Nat) : Except Fault Nat := if n ≤ Word.max64 then .ok n else .error .tooLarge

/-- Seconds and nanoseconds together, whole seconds of the latter carried over. That they do not
    fit is no error here: the program stops. -/
def ofParts (seconds nanos : Nat) : Except Fault Duration :=
  if nanos < perSecond then .ok ⟨seconds, nanos⟩
  else if seconds + nanos / perSecond ≤ Word.max64 then
    .ok ⟨seconds + nanos / perSecond, nanos % perSecond⟩
  else .error .stopped

/-- A duration and so many nanoseconds more. Only nanoseconds beyond a second are carried over with
    care; exactly one second of them is left to `ofParts`. -/
def addNanos (d : Duration) (n : Nat) : Except Fault Duration := do
  let n ← fit n
  let total ← fit (d.nanos + n)
  if perSecond < total then
    let seconds ← fit (d.seconds + total / perSecond)
    ofParts seconds (total % perSecond)
  else ofParts d.seconds total

/-- A duration and so many seconds more. -/
def addSeconds (d : Duration) (n : Nat) : Except Fault Duration := do
  let n ← fit n
  return ⟨← fit (d.seconds + n), d.nanos⟩

/-- A duration and a count of nanoseconds or seconds more. -/
def add (d : Duration) : Sum Nat Nat → Except Fault Duration
  | .inl nanos => d.addNanos nanos
  | .inr seconds => d.addSeconds seconds

/-- The digits after the point, as a quotient. -/
structure Fraction where
  numerator : Nat
  denominator : Nat
deriving DecidableEq, Repr

/-- A fraction of a length, which must come out even. -/
def Fraction.of (f : Fraction) (length : Nat) : Except Fault Nat := do
  let n ← fit (f.numerator * length)
  if n % f.denominator = 0 then .ok (n / f.denominator) else .error .tooLarge

/-- A duration and one item more: a count, perhaps a fraction, and the name of a unit. -/
def addItem (d : Duration) (n : Nat) (fraction : Option Fraction) (name : List Char) :
    Except Fault Duration :=
  if name = [] then .error (.unitNeeded n)
  else
    match TimeUnit.ofName? (String.ofList name) with
    | none => .error (.unknownUnit (String.ofList name))
    | some u => do
      let d ← d.add (u.length.map (n * ·) (n * ·))
      match fraction with
      | none => .ok d
      | some f =>
        match u.grain with
        | none => .error .tooLarge
        | some (.inl nanos) => d.addNanos (← f.of nanos)
        | some (.inr seconds) => d.addSeconds (← f.of seconds)

/-! ## 5. Reading -/

/-- A letter that names of units are made of. -/
def isUnitLetter (c : Char) : Bool := c.isAlpha || c = 'µ'

/-- The first digit of a number, after white space, with the place behind it; none at the end.
    A fault is placed where the search began. -/
def firstDigit (start : Nat) : Nat → List Char → Except Fault (Option (Nat × Nat × List Char))
  | _, [] => .ok none
  | place, c :: cs =>
    match Text.decimalDigit? c with
    | some d => .ok (some (d, place + 1, cs))
    | none =>
      if Text.isBlank c then firstDigit start (place + c.utf8Size) cs
      else .error (.numberExpected start)

/-- A number as far as it has been read. -/
structure Number where
  whole : Nat
  fraction : Option Fraction
  place : Nat
  rest : List Char

/-- The digits after a point, up to a letter or the end. `fault` is the place of the last character
    that was taken, at first of the point itself. -/
def fractionPart (whole : Nat) (f : Fraction) (fault : Nat) :
    Nat → List Char → Except Fault Number
  | _, [] =>
    if f.denominator = 1 then .error (.invalidCharacter fault)
    else .ok ⟨whole, some f, fault, []⟩
  | place, c :: cs =>
    match Text.decimalDigit? c with
    | some d =>
      if f.denominator * 10 ≤ Word.max64 ∧ f.numerator * 10 + d ≤ Word.max64 then
        fractionPart whole ⟨f.numerator * 10 + d, f.denominator * 10⟩ (place + 1) (place + 1) cs
      else .error .tooLarge
    | none =>
      if Text.isBlank c then
        fractionPart whole f (place + c.utf8Size) (place + c.utf8Size) cs
      else if isUnitLetter c ∧ f.denominator ≠ 1 then .ok ⟨whole, some f, place, c :: cs⟩
      else .error (.invalidCharacter fault)

/-- The digits of a number, up to a letter or the end. -/
def numberPart : Nat → Nat → List Char → Except Fault Number
  | n, place, [] => .ok ⟨n, none, place, []⟩
  | n, place, c :: cs =>
    match Text.decimalDigit? c with
    | some d =>
      if n * 10 + d ≤ Word.max64 then numberPart (n * 10 + d) (place + 1) cs else .error .tooLarge
    | none =>
      if Text.isBlank c then numberPart n (place + c.utf8Size) cs
      else if isUnitLetter c then .ok ⟨n, none, place, c :: cs⟩
      else if c = '.' then fractionPart n ⟨0, 1⟩ place (place + 1) cs
      else .error (.invalidCharacter place)

/-- The items from the first digit of a number on. Each takes a character, so their count is at
    most that of the characters. -/
def items : Nat → Duration → Nat → Nat → List Char → Except Fault Duration
  | 0, d, _, _, _ => .ok d
  | fuel + 1, d, n, place, cs => do
    let num ← numberPart n place cs
    let name := num.rest.takeWhile isUnitLetter
    let stop := num.place + Text.byteCount name
    match num.rest.dropWhile isUnitLetter with
    | [] => d.addItem num.whole num.fraction name
    | c :: more =>
      match Text.decimalDigit? c with
      | some digit => do
        let d ← d.addItem num.whole num.fraction name
        items fuel d digit (stop + 1) more
      | none =>
        if Text.isBlank c then do
          let d ← d.addItem num.whole num.fraction name
          let place := stop + c.utf8Size
          match ← firstDigit place place more with
          | none => .ok d
          | some (digit, place, more) => items fuel d digit place more
        else .error (.invalidCharacter stop)

/-- The duration that the characters write. -/
def ofChars (cs : List Char) : Except Fault Duration := do
  match ← firstDigit 0 0 cs with
  | none => .error .empty
  | some (digit, place, rest) => items (cs.length + 1) zero digit place rest

end Duration

end DaprHosting
