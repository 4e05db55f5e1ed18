import DaprHosting.Text.Utf8

/-!
# Files

Reading a file as text, as a function of its path. `Files.ofDirectory` is the view that a current
directory with given files affords: nothing else is known of the disk.
-/

namespace DaprHosting

/-! ## 1. Reading -/

/-- Why a file could not be read as text. -/
inductive FileError where
  | missing
  | isDirectory
  | notDirectory
  | nulInName
  | notText
  | other (cause : String)
deriving DecidableEq, Repr

/-- What the system tells of a file that it cannot read. -/
def FileError.message : FileError → String
  | .missing => "No such file or directory (os error 2)"
  | .isDirectory => "Is a directory (os error 21)"
  | .notDirectory => "Not a directory (os error 20)"
  | .nulInName => "file name contained an unexpected NUL byte"
  | .notText => "stream did not contain valid UTF-8"
  | .other cause => cause

/-- What every path reads as. -/
abbrev Files := String → Except FileError String

/-- The text of bytes. -/
def textOf (bytes : List UInt8) : Except FileError String :=
  match Text.ofUtf8? bytes with
  | some s => .ok s
  | none => .error .notText

/-! ## 2. A directory -/

namespace Files

/-- Where a path has led so far: a directory below the current one, by the names on the way to it
    with the last one first; a directory elsewhere; or a file. -/
inductive Place where
  | below (names : List String)
  | elsewhere
  | file (bytes : List UInt8)

/-- The parts of a path between slashes. -/
def parts (path : String) : List String := (path.toList.splitOn '/').map String.ofList

/-- What a name in a directory is. Above the current directory nothing is known to exist. -/
def enter (files : List (String × List UInt8)) (names : List String) : Except FileError Place :=
  let path := String.intercalate "/" names.reverse
  match files.find? fun f => f.1 == path with
  | some f => .ok (.file f.2)
  | none =>
    if files.any fun f => (path ++ "/").isPrefixOf f.1 then .ok (.below names)
    else .error .missing

/-- One part of a path followed. -/
def step (files : List (String × List UInt8)) (place : Place) (part : String) :
    Except FileError Place :=
  match place with
  | .file _ => .error .notDirectory
  | .elsewhere => if part = "" ∨ part = "." ∨ part = ".." then .ok .elsewhere else .error .missing
  | .below names =>
    if part = "" ∨ part = "." then .ok (.below names)
    else if part = ".." then
      match names with
      | [] => .ok .elsewhere
      | _ :: up => .ok (.below up)
    else enter files (part :: names)

/-- The files of the current directory, by name. -/
def ofDirectory (files : List (String × List UInt8)) : Files := fun path =>
  if path = "" then .error .missing
  else if path.toList.contains '\x00' then .error .nulInName
  else
    let start := if path.toList.head? = some '/' then Place.elsewhere else .below []
    match (parts path).foldlM (step files) start with
    | .ok (.file bytes) => textOf bytes
    | .ok _ => .error .isDirectory
    | .error e => .error e

/-- Files of which it is known beforehand what they read as. -/
def ofReads (reads : List (String × Except FileError String)) : Files := fun path =>
  match reads.find? fun r => r.1 == path with
  | some r => r.2
  | none => .error .missing

/-! ## 3. Equal paths -/

/-- What a path is compared by: whether it starts at the root, whether it starts at the current
    directory by name, and its parts. Doubled slashes, a slash at the end and a point between
    slashes mean nothing. -/
def components (path : String) : Bool × Bool × List String :=
  let ps := parts path
  let atRoot := path.toList.head? == some '/'
  (atRoot, !atRoot && ps.head? == some ".", ps.filter fun p => p != "" && p != ".")

/-- Whether two texts are the same path. -/
def samePath (a b : String) : Bool := components a == components b

end Files

end DaprHosting
