import DaprHosting.ControlPlane.Basic
import DaprHosting.Files
import DaprHosting.Text.Ascii
import DaprHosting.Text.Blank
import DaprHosting.Text.Quoted

/-!
# Bearer tokens

A token is given directly or as a file that holds it, written `file:PATH` or `file://PATH`. White
space around it means nothing, in the text as in the file, and no token is empty.
-/

namespace DaprHosting

/-- Where the token comes from. -/
inductive Token where
  | literal (secret : String)
  | file (path : String)
deriving DecidableEq, Repr

namespace Token

/-! ## 1. Reading -/

/-- The source that a text names. -/
def read (text : String) : Except ClientError Token :=
  let cs := Text.trimChars text.toList
  match cs with
  | [] => .error (.invalidConfig "auth token is empty")
  | cs =>
    match Text.after? ['f', 'i', 'l', 'e', ':'] cs with
    | none => .ok (.literal (String.ofList cs))
    | some path =>
      match (Text.after? ['/', '/'] path).getD path with
      | [] => .error (.invalidConfig "auth token file path is empty")
      | path => .ok (.file (String.ofList path))

/-! ## 2. Resolving -/

/-- The secret of a source. What a file holds is a secret and never the name of another source. -/
def resolve (files : Files) : Token → Except ClientError String
  | .literal secret => .ok secret
  | .file path =>
    match files path with
    | .error e =>
      .error (.invalidConfig
        ("failed to read token file " ++ Text.quoted path ++ ": " ++ e.message))
    | .ok content =>
      match Text.nonBlank? content with
      | some secret => .ok secret
      | none => .error (.invalidConfig ("token file " ++ Text.quoted path ++ " is empty"))

/-! ## 3. What is shown -/

/-- The written form, the same for all tokens. -/
def written (_ : Token) : String := "[REDACTED]"

/-- Equal sources: the same secret, or the same path. -/
def same : Token → Token → Bool
  | .literal a, .literal b => a == b
  | .file a, .file b => Files.samePath a b
  | _, _ => false

end Token

end DaprHosting
