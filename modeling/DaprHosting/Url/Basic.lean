import DaprHosting.Text.Ascii

/-!
# URLs

A URL in its parts, each already in the form in which it is written. `Url.toText` writes the whole;
when there is no authority and the path begins with an empty segment, a point is put before it, so
that the path is not taken for an authority.
-/

namespace DaprHosting

/-! ## 1. The type -/

/-- Who and where: user name and password as they are written, the host, and the number behind its
    colon when that is not the one the scheme implies. -/
structure Url.Authority where
  userinfo : List Char
  host : List Char
  portNumber : Option Nat
deriving DecidableEq, Repr

/-- A path: segments, each behind a slash, or a text without structure. -/
inductive Url.Path where
  | segments (ss : List (List Char))
  | bare (cs : List Char)
deriving DecidableEq, Repr

/-- A URL. -/
structure Url where
  scheme : List Char
  authority : Option Url.Authority
  path : Url.Path
  query : Option (List Char)
  fragment : Option (List Char)
deriving DecidableEq, Repr

namespace Url

/-! ## 2. Schemes -/

/-- The schemes whose URLs always have a host, and the number that each implies. -/
def specialPorts : List (String × Nat) :=
  [("http", 80), ("https", 443), ("ws", 80), ("wss", 443), ("ftp", 21)]

/-- The number that a scheme implies. -/
def defaultPort? (scheme : List Char) : Option Nat :=
  (specialPorts.find? fun p => p.1 == String.ofList scheme).map (·.2)

/-- The scheme of files. -/
def isFile (scheme : List Char) : Bool := scheme == ['f', 'i', 'l', 'e']

/-- The schemes that read a backslash as a slash. -/
def isSpecial (scheme : List Char) : Bool := (defaultPort? scheme).isSome || isFile scheme

/-! ## 3. Writing -/

/-- User, host and number, each with the sign that sets it off. -/
def Authority.toChars (a : Authority) : List Char :=
  (if a.userinfo.isEmpty then [] else a.userinfo ++ ['@']) ++ a.host ++
    match a.portNumber with
    | some p => ':' :: Text.decimal p
    | none => []

/-- The segments, each behind a slash. -/
def segmentChars (ss : List (List Char)) : List Char := ss.flatMap ('/' :: ·)

/-- The text of a path. -/
def Path.toChars : Path → List Char
  | .segments ss => segmentChars ss
  | .bare cs => cs

/-- What stands between the scheme and the path. -/
def authorityChars (u : Url) : List Char :=
  match u.authority, u.path with
  | some a, _ => '/' :: '/' :: a.toChars
  | none, .segments ([] :: _ :: _) => ['/', '.']
  | none, _ => []

/-- An optional part with its mark. -/
def markedChars (mark : Char) : Option (List Char) → List Char
  | some cs => mark :: cs
  | none => []

/-- The URL up to its fragment. -/
def charsToFragment (u : Url) : List Char :=
  u.scheme ++ ':' :: u.authorityChars ++ u.path.toChars ++ markedChars '?' u.query

/-- The whole URL. -/
def toChars (u : Url) : List Char := u.charsToFragment ++ markedChars '#' u.fragment

/-- The text of a URL. -/
def toText (u : Url) : String := String.ofList u.toChars

/-- The text of the URL that a request carries: a fragment is not sent. -/
def requestText (u : Url) : String := String.ofList u.charsToFragment

/-- A URL whose path has structure, so that segments can be added to it. -/
def isBase (u : Url) : Bool :=
  match u.path with
  | .segments _ => true
  | .bare _ => false

/-- The segments of the path. -/
def segments (u : Url) : List (List Char) :=
  match u.path with
  | .segments ss => ss
  | .bare _ => []

end Url

end DaprHosting
