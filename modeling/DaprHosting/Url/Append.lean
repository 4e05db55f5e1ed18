import DaprHosting.Url.Form
import DaprHosting.Url.Reader

/-!
# Adding to a URL

Segments are added to the path of an endpoint and a pair to its query. A segment is taken as a
name, whatever it holds: slashes, question marks and percent signs are encoded. Tabs and line ends
in it are lost, and the two dot segments are no names: one that is written so is skipped.
-/

namespace DaprHosting.Url

/-! ## 1. Paths -/

/-- A path that is nothing but its slash. -/
def isRoot (path : List (List Char)) : Bool := path == [[]]

/-- One more name at the end of a path. -/
def appendName (scheme : List Char) (path : List (List Char)) (name : List Char) :
    List (List Char) :=
  if name = ['.'] ∨ name = ['.', '.'] then path
  else
    let s := percentEncode (segmentSet (isSpecial scheme)) (name.filter fun c => !isSkipped c)
    let ss := addSegment (isFile scheme) true (if isRoot path then [] else path) s
    if isFile scheme then dropEmptyFront ss else ss

/-- The path without one empty segment at its end, unless it is nothing else. -/
def dropEmptyEnd (path : List (List Char)) : List (List Char) :=
  if 2 ≤ path.length ∧ path.getLast? = some [] then path.dropLast else path

/-- The URL with names added to its path. -/
def appendNames (u : Url) (names : List (List Char)) : Url :=
  match u.path with
  | .bare _ => u
  | .segments ss =>
    { u with path := .segments (names.foldl (appendName u.scheme) (dropEmptyEnd ss)) }

/-! ## 2. Queries -/

/-- The URL with a pair added to its query. -/
def appendPair (u : Url) (name value : String) : Url :=
  { u with query := some (Form.append u.query name.toList value.toList) }

end DaprHosting.Url
