import DaprHosting.Extension
import DaprHosting.Operator
import DaprHosting.Settings
import DaprHosting.Text.Blank

/-!
# Which release the extension takes over

Where Dapr is installed already, the extension must take over the release that is there, or it
would put a second copy beside it. Three control keys of the settings decide: one skips the
question, and two others together name the existing release. Otherwise the operator is asked.
-/

namespace DaprHosting

/-! ## 1. Releases -/

/-- The Helm release that the extension manages. -/
structure Release where
  name : String
  inNamespace : Option String
  alreadyInstalled : Bool
deriving DecidableEq, Repr

namespace Release

/-- The name a release has when nothing else is said. -/
def defaultName : String := "dapr"

/-- The namespace a release has when nothing else is said. -/
def defaultNamespace : String := "dapr-system"

/-- Why no release, or no installation, came about. -/
inductive Error where
  | unsupportedScope (scope : ScopeKind)
  | prompt (cause : PromptError)
deriving DecidableEq, Repr

/-- What is told of a release that could not be settled. -/
def Error.message : Error → String
  | .unsupportedScope scope =>
    "invalid scope '" ++ scope.name ++ "': the Dapr extension can't be installed at namespace " ++
    "scope, see https://docs.microsoft.com/en-us/azure/aks/dapr"
  | .prompt cause => cause.message

/-! ## 2. Asking the operator -/

/-- The yes-or-no question. -/
def confirmQuestion : String := "Is Dapr already installed in the cluster?"

/-- The question for the name of the release. -/
def nameQuestion : String :=
  "Enter the Helm release name for Dapr, or press Enter to use the default name [" ++
    defaultName ++ "]"

/-- The answer to the question for the name can be found with this. -/
def nameHint : String := "use \x60helm list -A\x60 to find the existing release"

/-- The question for its namespace. -/
def namespaceQuestion : String :=
  "Enter the namespace where Dapr is installed, or press Enter to use the default namespace [" ++
    defaultNamespace ++ "]"

/-- The trimmed text, or another when nothing is left of it. -/
def nonBlankOr (default : String) (s : String) : String := (Text.nonBlank? s).getD default

/-- The release the operator describes. One that is not installed yet gets the requested name and
    namespace, or the defaults where those are blank. -/
def ask {σ : Type} (operator : Operator σ) (name : String) (inNamespace : Option String) :
    Action σ PromptError Release := do
  if ← operator.confirm confirmQuestion false then
    let name ← operator.text nameQuestion (some nameHint)
    let ns ← operator.text namespaceQuestion none
    pure ⟨nonBlankOr defaultName name, some (nonBlankOr defaultNamespace ns), true⟩
  else
    pure ⟨nonBlankOr defaultName name,
      some (nonBlankOr defaultNamespace (inNamespace.getD "")), false⟩

/-! ## 3. Resolving -/

/-- A namespace that was asked for is not the one resolved. -/
def namespaceDiverges (requested resolved : Option String) : Bool :=
  match requested with
  | some ns => resolved != some ns
  | none => false

/-- Tell the operator where the release differs from the one requested. -/
def warnDiverging {σ ε : Type} (release : Release) (name : String) (inNamespace : Option String) :
    Action σ ε Unit := do
  if release.name != name then
    Action.warn ("the Helm release name for Dapr is '" ++ release.name ++
      "', which differs from the requested name '" ++ name ++ "'")
  if namespaceDiverges inNamespace release.inNamespace then
    Action.warn ("the Helm release namespace for Dapr is '" ++ release.inNamespace.getD "" ++
      "', which differs from the requested namespace '" ++ inNamespace.getD "" ++ "'")

/-- Who decides which release it is. -/
inductive Decision where
  | skipped
  | existing (name inNamespace : String)
  | asked
deriving DecidableEq, Repr

/-- The decision that settings call for, and the settings without the control keys that have been
    used up. The skip flag is always used up; the two keys that name a release are used up when
    both are there and the flag does not decide. -/
def decide (s : Settings) : Decision × Settings :=
  let rest := { s with skipExistingCheck := none }
  if s.skipExistingCheck = some true then (.skipped, rest)
  else match s.existingReleaseName, s.existingReleaseNamespace with
    | some name, some ns =>
      (.existing name ns,
        { rest with existingReleaseName := none, existingReleaseNamespace := none })
    | _, _ => (.asked, rest)

/-- The release that a decision leads to. -/
def ofDecision {σ : Type} (operator : Operator σ) (name : String) (inNamespace : Option String) :
    Decision → Action σ Error Release
  | .skipped => do
    Action.debug "skipping existing dapr installation check"
    pure ⟨name, inNamespace, false⟩
  | .existing n ns => do
    let release := ⟨n, some ns, true⟩
    warnDiverging release name inNamespace
    pure release
  | .asked => do
    let release ← (ask operator name inNamespace).mapError .prompt
    warnDiverging release name inNamespace
    pure release

/-- The release for a request. What is left of the settings is `(decide settings).2`, whether a
    release came about or not. -/
def resolve {σ : Type} (operator : Operator σ) (name : String) (inNamespace : Option String)
    (settings : Settings) : Action σ Error Release :=
  ofDecision operator name inNamespace (decide settings).1

/-! ## 4. One request after another -/

/-- A request for a release. -/
structure Request where
  name : String
  inNamespace : Option String
deriving DecidableEq, Repr

/-- What one request leaves: its outcome, and the settings after it. -/
structure Step (σ : Type) where
  outcome : Outcome σ Error Release
  settings : Settings

/-- Requests on the same settings and before the same operator, each on what the one before it
    left. -/
def resolveAll {σ : Type} (operator : Operator σ) (settings : Settings) (s : σ) :
    List Request → List (Step σ)
  | [] => []
  | r :: rs =>
    let outcome := resolve operator r.name r.inNamespace settings s
    let left := (decide settings).2
    ⟨outcome, left⟩ :: resolveAll operator left outcome.state rs

end Release

end DaprHosting
