import DaprHosting.Choice
import DaprHosting.Layer.Basic
import DaprHosting.RequestTimeout
import DaprHosting.Setting
import DaprHosting.Settings
import DaprHosting.Token
import DaprHosting.Toml.Basic
import DaprHosting.Url.Reader
import DaprHosting.Uuid
import DaprHosting.Word

/-!
# Options in a configuration file

How the value of each kind of option is written in a file, and how a table is read into the fields
of a layer. A value of another kind than its option is a complaint about the key; settings, tokens
and timeouts have complaints of their own.
-/

namespace DaprHosting.Layer

/-! ## 1. Tables -/

/-- A reader of an option's value. -/
abbrev Reader (α : Type) : Type := Toml → Except Error α

/-- An option of a layer `ρ` in a file: its key, and how its value changes the layer. -/
structure FileOption (ρ : Type) where
  key : String
  store : ρ → Toml → Except Error ρ

/-- A field that sets a value of the layer. -/
def FileOption.of {ρ α : Type} (key : String) (read : String → Reader α) (set : ρ → α → ρ) :
    FileOption ρ :=
  ⟨key, fun layer v => (read key v).map (set layer)⟩

/-- One entry read into a group of fields; an entry that belongs to no field is passed over. -/
def storeEntry {ρ : Type} (fields : List (FileOption ρ)) (layer : ρ) (e : String × Toml) :
    Except Error ρ :=
  match fields.find? fun f => f.key == e.1 with
  | some f => f.store layer e.2
  | none => .ok layer

/-- The entries read one after the other; the first complaint is the error. -/
def storeAll {ρ : Type} (fields : List (FileOption ρ)) (layer : ρ)
    (entries : List (String × Toml)) : Except Error ρ :=
  entries.foldlM (storeEntry fields) layer

/-- The entries read into the fields of the command itself. An entry that is left for the groups
    must at least hold no number that cannot be read. -/
def storeOwn {ρ : Type} (fields : List (FileOption ρ)) (layer : ρ)
    (entries : List (String × Toml)) : Except Error ρ :=
  entries.foldlM
    (fun layer e =>
      match fields.any fun f => f.key == e.1, e.2.unreadable? with
      | false, some digits => .error (.parse (.number digits))
      | _, _ => storeEntry fields layer e)
    layer

/-! ## 2. Plain values -/

/-- The complaint about a value that its option does not take. -/
def mismatch (key : String) (v : Toml) : Error := .parse (.mismatch key v)

/-- A text. -/
def text (key : String) : Reader String
  | .string s => .ok s
  | v => .error (mismatch key v)

/-- A truth value. -/
def flag (key : String) : Reader Bool
  | .boolean b => .ok b
  | v => .error (mismatch key v)

/-- A value given by its text, where the text denotes one. -/
def ofText {α : Type} (read : String → Option α) (key : String) : Reader α
  | .string s =>
    match read s with
    | some a => .ok a
    | none => .error (mismatch key (.string s))
  | v => .error (mismatch key v)

/-- A value of a closed set, by its name, or as a table with nothing under the name. -/
def choice {α : Type} (c : Choice α) (key : String) : Reader α
  | .string s => ofText c.ofName? key (.string s)
  | .table [(name, .table [])] => ofText c.ofName? key (.string name)
  | v => .error (mismatch key v)

/-- As `choice`; an option of the command itself may also have an empty array under the name. -/
def ownChoice {α : Type} (c : Choice α) (key : String) : Reader α
  | .table [(name, .array [])] => ofText c.ofName? key (.string name)
  | v => choice c key v

/-- A token, by the text of its source. -/
def token (key : String) : Reader Token
  | .string s =>
    match Token.read s with
    | .ok t => .ok t
    | .error e => .error (.parse (.told e.message))
  | v => .error (mismatch key v)

/-- The complaint about a value in none of the notations that a type lists. -/
def noNotation (type : String) : Error :=
  .parse (.told ("data did not match any variant of untagged enum " ++ type))

/-- A fault of a timeout as an error of its file. -/
def timeoutError (f : RequestTimeout.Fault) : Error :=
  match f with
  | .stopped => .stopped f.message
  | _ => .parse (.told f.message)

/-- A timeout: a whole number of seconds, or a text. -/
def timeout (_ : String) : Reader RequestTimeout
  | .integer n =>
    if n < 0 then .error (noNotation "Raw")
    else (RequestTimeout.ofSeconds n.toNat).mapError timeoutError
  | .string s => (RequestTimeout.read s).mapError timeoutError
  | _ => .error (noNotation "Raw")

/-! ## 3. Settings -/

/-- The text of a scalar: settings are strings wherever they go. An integer that needs all 64 bits
    is written as the double next to it. -/
def scalar? : Toml → Option String
  | .string s => some s
  | .boolean b => some (Settings.flagText b)
  | .integer n =>
    if n ≤ Word.maxSigned64 then some (toString n)
    else some (Decimal.Binary64.ofNat n.toNat).toPositional
  | .float x => some x.toPositional
  | _ => none

/-- A setting as a file writes it, before its key is looked at. -/
inductive RawSetting where
  | assignment (text : String)
  | pair (key value : String)
deriving DecidableEq, Repr

/-- The setting that a raw one stands for. -/
def RawSetting.toSetting : RawSetting → Except Setting.Fault Setting
  | .assignment text => Setting.ofAssignment text
  | .pair key value => Setting.ofPair key value

/-- The table that a date stands for where a table is looked for. -/
def dateKey : String := "$__toml_private_datetime"

/-- An element of a list of settings: `KEY=VALUE`, or a table with a key and a value. -/
def listed? : Toml → Option RawSetting
  | .string s => some (.assignment s)
  | .table es =>
    match Toml.entry? "key" es, (Toml.entry? "value" es).bind scalar? with
    | some (.string key), some value => some (.pair key value)
    | _, _ => none
  | _ => none

/-- Settings in any notation: a list, or one table of keys and values. -/
def rawSettings? : Toml → Option (List RawSetting)
  | .array vs => vs.mapM listed?
  | .table es => es.mapM fun e => (scalar? e.2).map (.pair e.1)
  | .datetime text => some [.pair dateKey text]
  | _ => none

/-- The settings of raw ones; the first fault is the error. -/
def toSettings (raw : List RawSetting) : Except Setting.Fault (List Setting) :=
  raw.mapM RawSetting.toSetting

/-- A fault of a setting as an error of its file. -/
def settingError (f : Setting.Fault) : Error := .parse (.told f.message)

/-- Settings. The whole value must be of one of the notations before any key is looked at. -/
def settings (_ : String) : Reader (List Setting) := fun v =>
  match rawSettings? v with
  | none => .error (noNotation "Settings")
  | some raw => (toSettings raw).mapError settingError

end DaprHosting.Layer
