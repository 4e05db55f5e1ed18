import DaprHosting.Json.Basic
import DaprHosting.Text.Ascii

/-!
# Writing JSON

The compact form has no white space; the laid-out form puts every element and member on a line of
its own, two spaces deeper than its container, and an empty container on one line. In strings the
quote, the backslash and the control characters are escaped, and no other character.
-/

namespace DaprHosting.Json

open Decimal (Binary64 shortest)

/-! ## 1. Strings -/

/-- A character inside a string literal. -/
def escape (c : Char) : List Char :=
  if c = '"' then ['\\', '"']
  else if c = '\\' then ['\\', '\\']
  else if c = '\n' then ['\\', 'n']
  else if c = '\r' then ['\\', 'r']
  else if c = '\t' then ['\\', 't']
  else if c = '\x08' then ['\\', 'b']
  else if c = '\x0c' then ['\\', 'f']
  else if c.toNat < 0x20 then
    ['\\', 'u', '0', '0', Nat.digitChar (c.toNat / 16), Nat.digitChar (c.toNat % 16)]
  else [c]

/-- A string literal. -/
def quote (s : String) : List Char := '"' :: s.toList.flatMap escape ++ ['"']

/-! ## 2. Numbers -/

/-- A double, with a point or an exponent so that it reads as a double again: positional from
    `10^-5` up to `10^16`, with an exponent outside. -/
def printFloat : Binary64 → List Char
  | .finite s m q =>
    let body :=
      if m = 0 then ['0', '.', '0']
      else
        let (d, e) := shortest m q
        let digits := Text.decimal d
        let point : Int := digits.length + e
        if 0 ≤ e ∧ point ≤ 16 then digits ++ List.replicate e.toNat '0' ++ ['.', '0']
        else if -5 < point ∧ point ≤ 16 then Decimal.positional d e
        else
          let power := point - 1
          digits.take 1 ++ (if digits.length = 1 then [] else '.' :: digits.drop 1) ++
            'e' :: (toString power).toList
    if s then '-' :: body else body
  | _ => ['n', 'u', 'l', 'l']

/-- A number. -/
def printNumber : Number → List Char
  | .integer n => if n < 0 then '-' :: Text.decimal n.natAbs else Text.decimal n.natAbs
  | .float x => printFloat x

/-! ## 3. The compact form -/

mutual

/-- A value without white space. -/
def print : Json → List Char
  | .null => ['n', 'u', 'l', 'l']
  | .bool true => ['t', 'r', 'u', 'e']
  | .bool false => ['f', 'a', 'l', 's', 'e']
  | .number n => printNumber n
  | .string s => quote s
  | .array js => '[' :: printElements js ++ [']']
  | .object ms => '\x7b' :: printMembers ms ++ ['\x7d']
  | .void => ['n', 'u', 'l', 'l']

/-- Elements with commas between them. -/
def printElements : List Json → List Char
  | [] => []
  | [j] => print j
  | j :: js => print j ++ ',' :: printElements js

/-- Members with commas between them. -/
def printMembers : List (String × Json) → List Char
  | [] => []
  | [(k, j)] => quote k ++ ':' :: print j
  | (k, j) :: ms => quote k ++ ':' :: print j ++ ',' :: printMembers ms

end

/-- The compact text of a value. -/
def compact (j : Json) : String := String.ofList j.print

/-! ## 4. The laid-out form -/

/-- A new line, indented. -/
def newLine (depth : Nat) : List Char := '\n' :: List.replicate (2 * depth) ' '

mutual

/-- A value whose container stands at the given depth. -/
def layOut (depth : Nat) : Json → List Char
  | .array [] => ['[', ']']
  | .array (j :: js) => '[' :: layOutElements (depth + 1) (j :: js) ++ newLine depth ++ [']']
  | .object [] => ['\x7b', '\x7d']
  | .object (m :: ms) =>
    '\x7b' :: layOutMembers (depth + 1) (m :: ms) ++ newLine depth ++ ['\x7d']
  | .null => print .null
  | .bool b => print (.bool b)
  | .number n => printNumber n
  | .string s => quote s
  | .void => print .void

/-- Elements on lines of their own. -/
def layOutElements (depth : Nat) : List Json → List Char
  | [] => []
  | [j] => newLine depth ++ layOut depth j
  | j :: js => newLine depth ++ layOut depth j ++ ',' :: layOutElements depth js

/-- Members on lines of their own. -/
def layOutMembers (depth : Nat) : List (String × Json) → List Char
  | [] => []
  | [(k, j)] => newLine depth ++ quote k ++ ':' :: ' ' :: layOut depth j
  | (k, j) :: ms =>
    newLine depth ++ quote k ++ ':' :: ' ' :: layOut depth j ++ ',' :: layOutMembers depth ms

end

/-- The laid-out text of a value. -/
def pretty (j : Json) : String := String.ofList (j.layOut 0)

example : compact (.object [("a", .array [ofNat 1, .null]), ("b", .string "x\"")]) =
    "\x7b\"a\":[1,null],\"b\":\"x\\\"\"\x7d" := by cbv

end DaprHosting.Json
