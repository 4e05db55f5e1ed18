import DaprHosting.Text.Ascii
import DaprHosting.Toml.Basic

/-!
# Strings, keys and blanks

The four kinds of string, on one line or several, with escapes or without; keys, bare or quoted,
with points between them; and what may stand between values: blanks, line ends and comments.
-/

namespace DaprHosting.Toml

/-! ## 1. Blanks and comments -/

/-- A space or tab. -/
def isSpace (c : Char) : Bool := c = ' ' || c = '\t'

/-- The characters from the first that is no space. -/
def skipSpaces (cs : List Char) : List Char := cs.dropWhile isSpace

/-- A control character that may stand nowhere. -/
def isControl (c : Char) : Bool := (c.toNat < 0x20 && c ≠ '\t') || c.toNat == 0x7F

/-- The rest after a line end. -/
def lineEnd? : List Char → Option (List Char)
  | '\n' :: cs => some cs
  | '\r' :: '\n' :: cs => some cs
  | _ => none

/-- What follows a comment, from its line end on; a comment holds no controls. -/
def comment? : List Char → Option (List Char)
  | '#' :: cs =>
    let rest := cs.dropWhile fun c => !isControl c
    if rest = [] ∨ (lineEnd? rest).isSome then some rest else none
  | cs => some cs

/-- What follows spaces, comments and line ends. Each line end takes a character, so there are no
    more of them than characters. -/
def skipLines : Nat → List Char → Option (List Char)
  | 0, cs => some cs
  | fuel + 1, cs => do
    let cs ← comment? (skipSpaces cs)
    match lineEnd? cs with
    | some rest => skipLines fuel rest
    | none => some cs

/-- What follows the spaces, comments and line ends at the front. -/
def skipBlanks (cs : List Char) : Option (List Char) := skipLines cs.length cs

/-! ## 2. Escapes -/

/-- A character of so many hexadecimal digits. -/
def coded? (width : Nat) (cs : List Char) : Option (Char × List Char) := do
  let ds := cs.take width
  let n ← Text.numeral? 16 ds
  if ds.length = width ∧ n.isValidChar then some (Char.ofNat n, cs.drop width) else none

/-- The character of an escape after its backslash. -/
def escape? : List Char → Option (Char × List Char)
  | [] => none
  | c :: cs =>
    if c = '"' ∨ c = '\\' then some (c, cs)
    else if c = 'n' then some ('\n', cs)
    else if c = 't' then some ('\t', cs)
    else if c = 'r' then some ('\r', cs)
    else if c = 'b' then some ('\x08', cs)
    else if c = 'f' then some ('\x0c', cs)
    else if c = 'e' then some ('\x1b', cs)
    else if c = 'x' then coded? 2 cs
    else if c = 'u' then coded? 4 cs
    else if c = 'U' then coded? 8 cs
    else none

/-! ## 3. Strings -/

/-- The rest of a string with escapes on one line. Each turn takes a character, so the length of
    the text is enough fuel; the same holds below. -/
def basic : Nat → List Char → Option (List Char × List Char)
  | 0, _ => none
  | fuel + 1, cs =>
    match cs with
    | [] => none
    | c :: cs =>
      if c = '"' then some ([], cs)
      else if c = '\\' then do
        let (x, cs) ← escape? cs
        let (xs, rest) ← basic fuel cs
        return (x :: xs, rest)
      else if isControl c then none
      else do
        let (xs, rest) ← basic fuel cs
        return (c :: xs, rest)

/-- The rest of a string without escapes on one line. -/
def literal (cs : List Char) : Option (List Char × List Char) :=
  let body := cs.takeWhile fun c => c ≠ '\'' && !isControl c
  match cs.drop body.length with
  | '\'' :: rest => some (body, rest)
  | _ => none

/-- The end of a string over several lines: three quotes, and up to two more before them. -/
def closing? (quote : Char) (cs : List Char) : Option (List Char × List Char) :=
  let n := (cs.takeWhile (· = quote)).length
  if 3 ≤ n then
    let extra := min (n - 3) 2
    some (List.replicate extra quote, cs.drop (extra + 3))
  else none

/-- What follows a backslash at the end of a line: all blanks up to the next character. -/
def joined? (cs : List Char) : Option (List Char) :=
  (lineEnd? (skipSpaces cs)).map fun rest =>
    rest.dropWhile fun c => isSpace c || c = '\n' || c = '\r'

/-- The rest of a string with escapes over several lines. -/
def longBasic : Nat → List Char → Option (List Char × List Char)
  | 0, _ => none
  | fuel + 1, cs =>
    match closing? '"' cs with
    | some done => some done
    | none =>
      match cs with
      | [] => none
      | c :: cs =>
        if c = '\\' then
          match joined? cs with
          | some rest => longBasic fuel rest
          | none => do
            let (x, cs) ← escape? cs
            let (xs, rest) ← longBasic fuel cs
            return (x :: xs, rest)
        else if c = '\r' then
          match cs with
          | '\n' :: cs => do
            let (xs, rest) ← longBasic fuel cs
            return ('\r' :: '\n' :: xs, rest)
          | _ => none
        else if isControl c && c ≠ '\n' then none
        else do
          let (xs, rest) ← longBasic fuel cs
          return (c :: xs, rest)

/-- The rest of a string without escapes over several lines. -/
def longLiteral : Nat → List Char → Option (List Char × List Char)
  | 0, _ => none
  | fuel + 1, cs =>
    match closing? '\'' cs with
    | some done => some done
    | none =>
      match cs with
      | [] => none
      | '\r' :: '\n' :: cs => do
        let (xs, rest) ← longLiteral fuel cs
        return ('\r' :: '\n' :: xs, rest)
      | c :: cs =>
        if isControl c && c ≠ '\n' then none
        else do
          let (xs, rest) ← longLiteral fuel cs
          return (c :: xs, rest)

/-- A line end right after the opening quotes is not part of the string. -/
def dropFirstLineEnd (cs : List Char) : List Char := (lineEnd? cs).getD cs

/-- A string on one line at the front. -/
def shortString? : List Char → Option (List Char × List Char)
  | '"' :: cs => basic (cs.length + 1) cs
  | '\'' :: cs => literal cs
  | _ => none

/-- A string of any kind at the front. -/
def string? (cs : List Char) : Option (List Char × List Char) :=
  match Text.after? ['"', '"', '"'] cs, Text.after? ['\'', '\'', '\''] cs with
  | some cs, _ => let cs := dropFirstLineEnd cs; longBasic (cs.length + 1) cs
  | none, some cs => let cs := dropFirstLineEnd cs; longLiteral (cs.length + 1) cs
  | none, none => shortString? cs

/-! ## 4. Keys -/

/-- A character of a bare key. -/
def isKeyChar (c : Char) : Bool := Text.isAsciiAlphanumeric c || c = '_' || c = '-'

/-- One part of a key. -/
def simpleKey? (cs : List Char) : Option (String × List Char) :=
  match shortString? cs with
  | some (k, rest) => some (String.ofList k, rest)
  | none =>
    match cs.takeWhile isKeyChar with
    | [] => none
    | k => some (String.ofList k, cs.drop k.length)

/-- A key of one part or more. Each part takes a character. -/
def keyParts : Nat → List Char → Option (List String × List Char)
  | 0, _ => none
  | fuel + 1, cs => do
    let (k, rest) ← simpleKey? cs
    match skipSpaces rest with
    | '.' :: more =>
      let (ks, rest) ← keyParts fuel (skipSpaces more)
      return (k :: ks, rest)
    | rest => return ([k], rest)

/-- A key, and what follows the spaces after it. -/
def key? (cs : List Char) : Option (List String × List Char) := keyParts (cs.length + 1) cs

end DaprHosting.Toml
