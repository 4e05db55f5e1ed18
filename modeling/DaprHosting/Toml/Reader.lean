import DaprHosting.Toml.Document
import DaprHosting.Toml.Scalar
import DaprHosting.Toml.Text

/-!
# Reading TOML

A document is a list of lines: a header of a table, a header of one more table of an array, or a
key with its value. Inline tables may stretch over lines and end in a comma, as arrays may.
-/

namespace DaprHosting.Toml

/-! ## 1. Values -/

/-- How deep arrays and inline tables may be nested. -/
def maxDepth : Nat := 80

mutual

/-- A value at the front; `depth` is how many containers may still be opened. -/
def value? : Nat → Nat → List Char → Option (Toml × List Char)
  | 0, _, _ => none
  | fuel + 1, depth, cs =>
    match cs with
    | [] => none
    | c :: rest =>
      if c = '"' ∨ c = '\'' then (string? cs).map fun (s, r) => (.string (String.ofList s), r)
      else if c = '[' then
        match depth with
        | 0 => none
        | depth + 1 => (elements? fuel depth rest).map fun (vs, r) => (.array vs, r)
      else if c = '\x7b' then
        match depth with
        | 0 => none
        | depth + 1 =>
          (pairs? fuel depth [] rest).map fun (ms, r) => (.table (membersToToml ms), r)
      else
        let (run, r) := takeBare cs
        (bare? run).map (·, r)

/-- The elements of an array up to its closing bracket. -/
def elements? : Nat → Nat → List Char → Option (List Toml × List Char)
  | 0, _, _ => none
  | fuel + 1, depth, cs => do
    let cs ← skipBlanks cs
    match cs with
    | ']' :: r => some ([], r)
    | cs =>
      let (v, r) ← value? fuel depth cs
      let r ← skipBlanks r
      match r with
      | ',' :: r =>
        let (vs, r) ← elements? fuel depth r
        some (v :: vs, r)
      | ']' :: r => some ([v], r)
      | _ => none

/-- The pairs of an inline table up to its closing brace, after those read so far. -/
def pairs? : Nat → Nat → Members → List Char → Option (Members × List Char)
  | 0, _, _, _ => none
  | fuel + 1, depth, ms, cs => do
    let cs ← skipBlanks cs
    match cs with
    | '\x7d' :: r => some (ms, r)
    | cs =>
      let (k, r) ← key? cs
      match skipSpaces r with
      | '=' :: r =>
        let (v, r) ← value? fuel depth (skipSpaces r)
        let ms ← assign k v ms
        let r ← skipBlanks r
        match r with
        | ',' :: r => pairs? fuel depth ms r
        | '\x7d' :: r => some (ms, r)
        | _ => none
      | _ => none

end

/-! ## 2. Lines -/

/-- What has been read of a document: its members, and the path of the table that keys go to. -/
structure Reading where
  members : Members := []
  path : List String := []

/-- The end of a line: spaces, perhaps a comment, and a line end or the end of the text. -/
def endOfLine? (cs : List Char) : Option (List Char) := do
  let cs ← comment? (skipSpaces cs)
  match cs with
  | [] => some []
  | cs => lineEnd? cs

/-- A header at its path. -/
def Reading.open? (d : Reading) (path : List String)
    (change : String → Members → Option Members) : Option Reading := do
  let last ← path.getLast?
  let members ← within (change last) path.dropLast d.members
  return ⟨members, path⟩

/-- A header, a key with its value, or nothing, up to the end of the line. -/
def Reading.line? (d : Reading) (cs : List Char) : Option (Reading × List Char) :=
  match cs with
  | '[' :: '[' :: cs => do
    let (path, r) ← key? (skipSpaces cs)
    let r ← Text.after? [']', ']'] r
    return (← d.open? path openElement, r)
  | '[' :: cs => do
    let (path, r) ← key? (skipSpaces cs)
    let r ← Text.after? [']'] r
    return (← d.open? path openTable, r)
  | cs =>
    if cs = [] ∨ cs.head? = some '#' ∨ (lineEnd? cs).isSome then some (d, cs)
    else do
      let (k, r) ← key? cs
      let r ← Text.after? ['='] (skipSpaces r)
      let (v, r) ← value? (2 * r.length + 2) maxDepth (skipSpaces r)
      return (⟨← within (assign k v) d.path d.members, d.path⟩, r)

/-- The lines of a document. Each takes a character, so there are no more of them than
    characters. -/
def lines? : Nat → Reading → List Char → Option Reading
  | 0, d, _ => some d
  | fuel + 1, d, cs =>
    if cs = [] then some d
    else do
      let (d, r) ← d.line? (skipSpaces cs)
      lines? fuel d (← endOfLine? r)

/-- The text without a byte order mark. -/
def dropMark : List Char → List Char
  | c :: cs => if c.toNat = 0xFEFF then cs else c :: cs
  | [] => []

/-- The entries of the document that a text is. -/
def read? (s : String) : Option (List (String × Toml)) :=
  let cs := dropMark s.toList
  (lines? (cs.length + 1) {} cs).map fun d => membersToToml d.members

end DaprHosting.Toml
