import DaprHosting.Layer.Binding
import DaprHosting.Layer.Install
import DaprHosting.Layer.Update
import DaprHosting.Toml.Reader

/-!
# Loading a configuration

The options of the command line and the environment are laid over those of the file, when there is
one, and the whole is made into a configuration.
-/

namespace DaprHosting.Layer

/-- What a kind of layer needs to be loaded: to be laid over another, to be read from a file, and
    to be made into a configuration `κ`. -/
structure Kind (ρ κ : Type) where
  none : ρ
  overlay : ρ → ρ → ρ
  ofEntries : List (String × Toml) → Except Error ρ
  resolve : ρ → Except Error κ

/-- How `addon create` is configured. -/
def install : Kind InstallLayer InstallConfig :=
  ⟨{}, InstallLayer.overlay, InstallLayer.ofEntries, InstallLayer.resolve⟩

/-- How `addon update` is configured. -/
def update : Kind UpdateLayer UpdateConfig :=
  ⟨{}, UpdateLayer.overlay, UpdateLayer.ofEntries, UpdateLayer.resolve⟩

/-- How `binding provision` is configured. -/
def binding : Kind BindingLayer BindingConfig :=
  ⟨{}, BindingLayer.overlay, BindingLayer.ofEntries, BindingLayer.resolve⟩

/-- The layer of a file's text. -/
def Kind.ofText {ρ κ : Type} (kind : Kind ρ κ) (text : String) : Except Error ρ :=
  match Toml.read? text with
  | .none => .error (.parse (.noToml text))
  | some entries => kind.ofEntries entries

/-- The layer of a file, or the empty layer when there is none. -/
def Kind.ofFile {ρ κ : Type} (kind : Kind ρ κ) (files : Files) : Option String → Except Error ρ
  | .none => .ok kind.none
  | some path =>
    match files path with
    | .ok text => kind.ofText text
    | .error e => .error (.io path e.message)

/-- The configuration of a file and the options laid over it. -/
def Kind.load {ρ κ : Type} (kind : Kind ρ κ) (files : Files) (path : Option String) (top : ρ) :
    Except Error κ := do
  let base ← kind.ofFile files path
  kind.resolve (kind.overlay base top)

end DaprHosting.Layer
