import DaprHosting.Url.Basic
import DaprHosting.Url.Host

/-!
# Reading URLs

A URL is read on its own, without another one to complete it, so it must name its scheme. Controls
and spaces around it mean nothing, nor do tabs and line ends inside it. Each part is brought to
the form in which it is written.
-/

namespace DaprHosting.Url

/-! ## 1. Paths -/

/-- A segment that stands for the segment it follows. -/
def isSingleDot (s : List Char) : Bool :=
  s == ['.'] || s.map Char.toLower == ['%', '2', 'e']

/-- A segment that stands for the one before. -/
def isDoubleDot (s : List Char) : Bool :=
  [".".toList, "%2e".toList].any fun a => [".".toList, "%2e".toList].any fun b =>
    s.map Char.toLower == a ++ b

/-- A letter and a colon or a bar: a drive. -/
def isDrive : List Char → Bool
  | [c, d] => c.isAlpha && (d = ':' || d = '|')
  | _ => false

/-- One more segment, encoded already. A dot segment moves instead, and where it is the last one
    it leaves an empty segment. In the path of a file a drive comes first and stays. -/
def addSegment (file isLast : Bool) (path : List (List Char)) (s : List Char) :
    List (List Char) :=
  if isDoubleDot s then
    let up :=
      match file, path with
      | true, [d] => if isDrive d then path else []
      | _, _ => path.dropLast
    if isLast then up ++ [[]] else up
  else if isSingleDot s then if isLast then path ++ [[]] else path
  else if file && path.all List.isEmpty && isDrive s then [s.take 1 ++ [':']]
  else path ++ [s]

/-- The segments added one after the other. -/
def addSegments (file : Bool) : List (List Char) → List (List Char) → List (List Char)
  | path, [] => path
  | path, [s] => addSegment file true path s
  | path, s :: ss => addSegments file (addSegment file false path s) ss

/-- The path without empty segments at its front, except for a last one. -/
def dropEmptyFront : List (List Char) → List (List Char)
  | [] :: s :: ss => dropEmptyFront (s :: ss)
  | ss => ss

/-- The characters split at slashes, and at backslashes where those count as slashes. -/
def splitSegments (special : Bool) (cs : List Char) : List (List Char) :=
  (cs.map fun c => if special && c == '\\' then '/' else c).splitOn '/'

/-- The segments of a path after its first slash. -/
def readSegments (scheme cs : List Char) : List (List Char) :=
  let raw := splitSegments (isSpecial scheme) cs
  let ss := addSegments (isFile scheme) [] (raw.map (percentEncode pathSet))
  if isFile scheme then dropEmptyFront ss else ss

/-! ## 2. Query and fragment -/

/-- A character that ends a path. -/
def endsPath (c : Char) : Bool := c = '?' || c = '#'

/-- Query and fragment of what follows a path. -/
def readTail (special : Bool) (cs : List Char) : Option (List Char) × Option (List Char) :=
  let (front, fragment) := Text.cutAt '#' cs
  let query := match front with
    | '?' :: q => some (percentEncode (if special then specialQuerySet else querySet) q)
    | _ => none
  (query, fragment.map (percentEncode fragmentSet))

/-- A URL of its first parts and what follows its path. -/
def withTail (scheme : List Char) (authority : Option Authority) (path : Path) (rest : List Char) :
    Url :=
  let (query, fragment) := readTail (isSpecial scheme) rest
  ⟨scheme, authority, path, query, fragment⟩

/-! ## 3. Authorities -/

/-- A character that ends an authority. -/
def endsAuthority (special : Bool) (c : Char) : Bool :=
  c = '/' || c = '?' || c = '#' || (special && c = '\\')

/-- The text before the last `@`, and what follows it. -/
def cutAtLastAt (cs : List Char) : Option (List Char × List Char) :=
  if cs.contains '@' then
    let after := (cs.reverse.takeWhile (· ≠ '@')).reverse
    some (cs.take (cs.length - after.length - 1), after)
  else none

/-- User name and password in their written form; an empty password is left out. -/
def readUserinfo (cs : List Char) : List Char :=
  match Text.cutAt ':' cs with
  | (name, none) => percentEncode userinfoSet name
  | (name, some []) => percentEncode userinfoSet name
  | (name, some password) =>
    percentEncode userinfoSet name ++ ':' :: percentEncode userinfoSet password

/-- The characters of a host: up to a colon that is not between brackets. -/
def takeHost : Bool → List Char → List Char
  | _, [] => []
  | inside, c :: cs =>
    if c = ':' ∧ inside = false then []
    else c :: takeHost (if c = '[' then true else if c = ']' then false else inside) cs

/-- The number behind a host's colon: none when it is not written or is the one the scheme
    implies. -/
def readPort? (scheme cs : List Char) : Option (Option Nat) :=
  if cs = [] then some none
  else do
    let n ← Text.numeral? 10 cs
    if 65535 < n then none
    else some (if defaultPort? scheme = some n then none else some n)

/-- A host and the number behind its colon. -/
def readHostAndPort? (scheme cs : List Char) : Option (List Char × Option Nat) := do
  let host := takeHost false cs
  let rest := cs.drop host.length
  if host = [] ∧ (isSpecial scheme ∨ rest ≠ []) then none
  else
    let written ← if isSpecial scheme then specialHost? host else otherHost? host
    let number ← readPort? scheme (rest.drop 1)
    return (written, number)

/-- An authority that ends where `cs` ends; `more` is whether something follows. A user without a
    host is refused, and so is a lone `@` before a path. -/
def readAuthority? (scheme cs : List Char) (more : Bool) : Option Authority := do
  let (info, rest, at?) := match cutAtLastAt cs with
    | some (info, rest) => (info, rest, true)
    | none => ([], cs, false)
  let userinfo := readUserinfo info
  if at? ∧ info = [] ∧ rest = [] ∧ more then none
  else if userinfo ≠ [] ∧ rest = [] then none
  else
    let (host, number) ← readHostAndPort? scheme rest
    return ⟨userinfo, host, number⟩

/-! ## 4. Whole URLs -/

/-- The part of a text before the first character of a kind, and the rest from it on. -/
def breakAt (stop : Char → Bool) (cs : List Char) : List Char × List Char :=
  (cs.takeWhile fun c => !stop c, cs.dropWhile fun c => !stop c)

/-- A slash, or a backslash where that counts as one. -/
def isSlash (special : Bool) (c : Char) : Bool := c = '/' || (special && c = '\\')

/-- A URL with an authority, after the two slashes. -/
def readHierarchical? (scheme cs : List Char) : Option Url := do
  let special := isSpecial scheme
  let (front, rest) := breakAt (endsAuthority special) cs
  let authority ← readAuthority? scheme front (!rest.isEmpty)
  let (path, tail) := breakAt endsPath rest
  let segments := match path with
    | [] => if special then [[]] else []
    | _ :: cs => readSegments scheme cs
  return withTail scheme (some authority) (.segments segments) tail

/-- The host of a file, after two slashes: a drive is no host, and `localhost` is as good as
    none. -/
def readFileHost? (cs : List Char) : Option (List Char) :=
  if cs = [] then some []
  else (specialHost? cs).map fun h => if h = "localhost".toList then [] else h

/-- A URL of a file. -/
def readFile? (scheme cs : List Char) : Option Url := do
  let slashed := (cs.takeWhile (isSlash true)).length
  let (host, rest) ←
    if 2 ≤ slashed then
      let (front, rest) := breakAt (endsAuthority true) (cs.drop 2)
      if isDrive front then some ([], cs.drop 2)
      else (readFileHost? front).map fun h => (h, rest)
    else some ([], cs)
  let (path, tail) := breakAt endsPath rest
  let path := if (path.take 1).any (isSlash true) then path.drop 1 else path
  return withTail scheme (some ⟨[], host, none⟩) (.segments (readSegments scheme path)) tail

/-- A URL of a scheme that is not special. -/
def readOther? (scheme cs : List Char) : Option Url :=
  match cs with
  | '/' :: '/' :: cs => readHierarchical? scheme cs
  | '/' :: cs =>
    let (path, tail) := breakAt endsPath cs
    some (withTail scheme none (.segments (readSegments scheme path)) tail)
  | cs =>
    let (path, tail) := breakAt endsPath cs
    some (withTail scheme none (.bare (percentEncode controlSet path)) tail)

/-- A scheme in lower case: a letter, and letters, digits and `+-.` after it. -/
def scheme? (cs : List Char) : Option (List Char) :=
  match cs with
  | [] => none
  | c :: rest =>
    if c.isAlpha && rest.all fun d => Text.isAsciiAlphanumeric d || "+-.".toList.contains d then
      some (cs.map Char.toLower)
    else none

/-- A control or a space. -/
def isOuterBlank (c : Char) : Bool := c.toNat ≤ 0x20

/-- A tab or a line end. -/
def isSkipped (c : Char) : Bool := c = '\t' || c = '\n' || c = '\r'

/-- The characters that count. -/
def significant (cs : List Char) : List Char :=
  (((cs.dropWhile isOuterBlank).reverse.dropWhile isOuterBlank).reverse).filter
    fun c => !isSkipped c

/-- The URL that the characters write. -/
def ofChars? (cs : List Char) : Option Url := do
  let (name, rest) := Text.cutAt ':' (significant cs)
  let rest ← rest
  let scheme ← scheme? name
  if isFile scheme then readFile? scheme rest
  else if isSpecial scheme then readHierarchical? scheme (rest.dropWhile (isSlash true))
  else readOther? scheme rest

/-- The URL that a text writes. -/
def read? (s : String) : Option Url := ofChars? s.toList

end DaprHosting.Url
