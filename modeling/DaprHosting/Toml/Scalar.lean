import DaprHosting.Text.Ascii
import DaprHosting.Toml.Basic
import DaprHosting.Word

/-!
# Numbers, dates and truth values

A bare value is a run of letters, digits and a few signs. It is a truth value, an integer in one of
four bases, a float, or a date or time; anything else is no value.
-/

namespace DaprHosting.Toml

open Decimal (Binary64)

/-! ## 1. Digits -/

/-- Digits with single underscores between them, without the underscores. -/
def grouped? (isDigit : Char → Bool) (cs : List Char) : Option (List Char) :=
  let groups := cs.splitOn '_'
  if groups.all fun g => !g.isEmpty && g.all isDigit then some groups.flatten else none

/-- Decimal digits without a leading zero. -/
def plain? (cs : List Char) : Option (List Char) :=
  (grouped? Char.isDigit cs).bind fun ds =>
    if ds.head? = some '0' ∧ ds ≠ ['0'] then none else some ds

/-- The sign of a number, and what follows it. -/
def signed : List Char → Option Bool × List Char
  | '-' :: cs => (some true, cs)
  | '+' :: cs => (some false, cs)
  | cs => (none, cs)

/-! ## 2. Numbers -/

/-- An integer as a value, if it can be read. -/
def ofInteger (n : Int) : Toml :=
  if -(Word.maxSigned64 : Int) - 1 ≤ n ∧ n ≤ Word.max64 then .integer n
  else .unreadable (toString n)

/-- An integer in a base other than ten. -/
def based? (base : Nat) (cs : List Char) : Option Toml :=
  (grouped? (fun c => (Text.hexDigit? c).any (· < base)) cs).bind fun ds =>
    (Text.numeral? base ds).map fun n => ofInteger n

/-- The exponent after its mark. -/
def exponent? (cs : List Char) : Option Int :=
  let (sign, ds) := signed cs
  (grouped? Char.isDigit ds).bind fun ds =>
    (Text.numeral? 10 ds).map fun n => if sign = some true then -(n : Int) else n

/-- A float: a whole part, and a fraction or an exponent or both. -/
def float? (negative : Bool) (cs : List Char) : Option Toml := do
  let mantissa := cs.takeWhile fun c => c ≠ 'e' && c ≠ 'E'
  let power ← match cs.drop mantissa.length with
    | [] => some 0
    | _ :: e => exponent? e
  let (whole, fraction) := Text.cutAt '.' mantissa
  let whole ← plain? whole
  let fraction ← match fraction with
    | some f => grouped? Char.isDigit f
    | none => if mantissa.length = cs.length then none else some []
  let digits ← Text.numeral? 10 (whole ++ fraction)
  let x := Binary64.ofDecimal negative digits (power - fraction.length)
  return if x.isFinite then .float x
  else .unreadable ((if negative then "-" else "") ++ String.ofList cs)

/-- A number. -/
def number? (cs : List Char) : Option Toml :=
  match cs with
  | '0' :: 'x' :: ds => based? 16 ds
  | '0' :: 'o' :: ds => based? 8 ds
  | '0' :: 'b' :: ds => based? 2 ds
  | _ =>
    let (sign, body) := signed cs
    let negative := sign == some true
    if body = ['i', 'n', 'f'] then some (.float (.infinite negative))
    else if body = ['n', 'a', 'n'] then some (.float .nan)
    else match plain? body with
      | some ds =>
        (Text.numeral? 10 ds).map fun n => ofInteger (if negative then -(n : Int) else n)
      | none => float? negative body

/-! ## 3. Dates and times -/

/-- A number of exactly so many digits. -/
def fixed? (width : Nat) (cs : List Char) : Option Nat :=
  if cs.length = width ∧ cs.all Char.isDigit then Text.numeral? 10 cs else none

/-- How many days a month has. -/
def daysIn (year month : Nat) : Nat :=
  if month = 2 then
    if year % 4 = 0 ∧ (year % 100 ≠ 0 ∨ year % 400 = 0) then 29 else 28
  else if month = 4 ∨ month = 6 ∨ month = 9 ∨ month = 11 then 30
  else 31

/-- A date in its written form. -/
def date? (cs : List Char) : Option (List Char) :=
  match cs.splitOn '-' with
  | [y, m, d] => do
    let year ← fixed? 4 y
    let month ← fixed? 2 m
    let day ← fixed? 2 d
    if 1 ≤ month ∧ month ≤ 12 ∧ 1 ≤ day ∧ day ≤ daysIn year month then some cs else none
  | _ => none

/-- A number of two digits up to a limit. -/
def upTo? (limit : Nat) (cs : List Char) : Option Nat :=
  (fixed? 2 cs).bind fun n => if n ≤ limit then some n else none

/-- The fraction of a second, to nine places and without zeros at its end. -/
def fractionOfSecond? (cs : List Char) : Option (List Char) :=
  if cs = [] ∨ ¬ cs.all Char.isDigit then none
  else
    let kept := ((cs.take 9).reverse.dropWhile (· = '0')).reverse
    some (if kept.isEmpty then [] else '.' :: kept)

/-- A time in its written form; the seconds may be left out. -/
def time? (cs : List Char) : Option (List Char) := do
  let (front, fraction) := Text.cutAt '.' cs
  match front.splitOn ':', fraction with
  | [h, m], none =>
    let _ ← upTo? 23 h
    let _ ← upTo? 59 m
    return front
  | [h, m, s], fraction =>
    let _ ← upTo? 23 h
    let _ ← upTo? 59 m
    let _ ← upTo? 60 s
    match fraction with
    | none => return front
    | some f => return front ++ (← fractionOfSecond? f)
  | _, _ => none

/-- The offset of a time from universal time, in its written form. -/
def offset? (cs : List Char) : Option (List Char) :=
  match cs with
  | [] => some []
  | ['Z'] => some ['Z']
  | ['z'] => some ['Z']
  | sign :: hm =>
    if sign = '+' ∨ sign = '-' then
      match hm.splitOn ':' with
      | [h, m] => do
        let _ ← upTo? 23 h
        let _ ← upTo? 59 m
        return cs
      | _ => none
    else none

/-- A character that starts an offset. -/
def startsOffset (c : Char) : Bool := c = 'Z' || c = 'z' || c = '+' || c = '-'

/-- A date, a time, or both with a letter or a space between them and perhaps an offset. -/
def datetime? (cs : List Char) : Option (List Char) :=
  match cs[10]? with
  | none => (date? cs).orElse fun _ => time? cs
  | some sep =>
    if sep = 'T' ∨ sep = 't' ∨ sep = ' ' then do
      let date ← date? (cs.take 10)
      let rest := cs.drop 11
      let clock := rest.takeWhile fun c => !startsOffset c
      let time ← time? clock
      let offset ← offset? (rest.drop clock.length)
      return date ++ 'T' :: time ++ offset
    else time? cs

/-! ## 4. Bare values -/

/-- The value that a run of characters is. -/
def bare? (cs : List Char) : Option Toml :=
  if cs = ['t', 'r', 'u', 'e'] then some (.boolean true)
  else if cs = ['f', 'a', 'l', 's', 'e'] then some (.boolean false)
  else match number? cs with
    | some v => some v
    | none => (datetime? cs).map fun text => .datetime (String.ofList text)

/-- A character of a bare value. -/
def isBareChar (c : Char) : Bool := Text.isAsciiAlphanumeric c || "+-._:".toList.contains c

/-- The run of characters at the front: after a date a space and the time still belong to it. -/
def takeBare (cs : List Char) : List Char × List Char :=
  let run := cs.takeWhile isBareChar
  let rest := cs.drop run.length
  match (date? run).isSome, rest with
  | true, ' ' :: d :: more =>
    if d.isDigit then
      let time := (d :: more).takeWhile isBareChar
      (run ++ ' ' :: time, (d :: more).drop time.length)
    else (run, rest)
  | _, _ => (run, rest)

end DaprHosting.Toml
