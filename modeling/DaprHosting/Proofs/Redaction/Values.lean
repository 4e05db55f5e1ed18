import DaprHosting.Layer.Decode
import DaprHosting.Proofs.Toml.Names

/-!
# Protected values left out

A protected setting has a key that may be seen and a value that may not. Redaction puts the empty
text in place of the value, wherever it is written: behind the first `=` of an assignment, in a pair
of a list, in a table. Reading commutes with it: `settings_redacted` says that the settings of a
redacted value are those of the value, redacted, and that the complaint is the same where there is
one.
-/

namespace DaprHosting

/-! ## 1. Steps in a row -/

section Rows

variable {α β ε : Type} {hide : β → β}

/-- What goes on alike from a changed result does so behind the step that leaves it. -/
theorem bind_map_of_commutes {change : α → α} {f f' : α → Except ε β}
    (h : ∀ a, f' (change a) = (f a).map hide) (x : Except ε α) :
    (x.map change >>= f') = (x >>= f).map hide := by
  cases x with
  | error e => rfl
  | ok a => exact h a

/-- Steps that commute with a change of what they go through and of what they work on do so in a
    row. -/
theorem foldlM_map_of_commutes {change : α → α} {f : β → α → Except ε β}
    (h : ∀ b a, f (hide b) (change a) = (f b a).map hide) (as : List α) (b : β) :
    (as.map change).foldlM f (hide b) = (as.foldlM f b).map hide := by
  induction as generalizing b with
  | nil => rfl
  | cons a as ih =>
    rw [List.map_cons, List.foldlM_cons, List.foldlM_cons, h]
    cases f b a with
    | error e => rfl
    | ok b' => exact ih b'

/-- Elements that are read as before, but for a change of what is read, are so together. -/
theorem mapM_map_of_commutes {m : Type → Type} [Monad m] [LawfulMonad m] {change : α → α}
    {f : α → m β} (h : ∀ a, f (change a) = hide <$> f a) (as : List α) :
    (as.map change).mapM f = List.map hide <$> as.mapM f := by
  induction as with
  | nil => simp
  | cons a as ih => simp [h, ih]

end Rows

/-! ## 2. Settings -/

namespace Setting

/-- The setting without its value. -/
def redacted (s : Setting) : Setting := { s with value := "" }

/-- The text up to its first `=`. -/
def redactedText (text : String) : String :=
  match Text.cutAt '=' text.toList with
  | (key, some _) => String.ofList (key ++ ['='])
  | (_, none) => text

theorem ofPair_redacted (key value : String) : ofPair key "" = (ofPair key value).map redacted := by
  unfold ofPair
  cases Text.nonBlank? key with
  | none => rfl
  | some k => rfl

end Setting

/-- **The text behind the first `=` is the value, and nothing else depends on it.** -/
theorem Setting.ofAssignment_redactedText (text : String) :
    ofAssignment (redactedText text) = (ofAssignment text).map redacted := by
  have hkey := Text.notMem_cutAt '=' text.toList
  unfold redactedText
  cases hcut : Text.cutAt '=' text.toList with
  | mk key value =>
    rw [hcut] at hkey
    cases value with
    | none => simp only [ofAssignment, hcut, Except.map]
    | some value =>
      simp only [ofAssignment, hcut, String.toList_ofList, Text.cutAt_append [] hkey]
      exact ofPair_redacted _ _

/-! ## 3. Values in a file -/

namespace Toml

open Layer (scalar? listed? rawSettings? toSettings RawSetting)

/-- A scalar is read as a text: it leaves the empty one. -/
def redactedScalar (v : Toml) : Toml := if (scalar? v).isSome then .string "" else v

/-- An element of a list of settings: an assignment, or a table with the value under its name. -/
def redactedListed : Toml → Toml
  | .string s => .string (Setting.redactedText s)
  | .table es => .table (es.map fun e => (e.1, if e.1 = "value" then e.2.redactedScalar else e.2))
  | v => v

/-- Settings in any notation. -/
def redactedSettings : Toml → Toml
  | .array vs => .array (vs.map redactedListed)
  | .table es => .table (es.map fun e => (e.1, e.2.redactedScalar))
  | .datetime _ => .datetime ""
  | v => v

theorem scalar?_redactedScalar (v : Toml) :
    scalar? v.redactedScalar = (scalar? v).map fun _ => "" := by
  unfold redactedScalar
  cases h : scalar? v with
  | none => exact h
  | some s => rfl

theorem entry?_map (name : String) (change : String → Toml → Toml) (es : List (String × Toml)) :
    entry? name (es.map fun e => (e.1, change e.1 e.2)) = ( entry? name es).map (change name) := by
  induction es with
  | nil => rfl
  | cons e es ih =>
    obtain ⟨k, v⟩ := e
    simp only [List.map_cons, entry?]
    split
    · rename_i hk
      rw [hk, Option.map_some]
    · exact ih

/-! ### Unreadable numbers stay -/

theorem unreadable?_of_scalar? {v : Toml} {s : String} (h : scalar? v = some s) :
    v.unreadable? = none := by
  cases v with
  | datetime | array | table | unreadable => cases h
  | _ => rfl

theorem unreadable?_redactedScalar (v : Toml) :
    v.redactedScalar.unreadable? = v.unreadable? := by
  unfold redactedScalar
  cases h : scalar? v with
  | none => rfl
  | some s => exact (unreadable?_of_scalar? h).symm

theorem entriesUnreadable?_map (change : String → Toml → Toml)
    (h : ∀ k v, (change k v).unreadable? = v.unreadable?) (es : List (String × Toml)) :
    entriesUnreadable? (es.map fun e => (e.1, change e.1 e.2)) = entriesUnreadable? es := by
  induction es with
  | nil => rfl
  | cons e es ih => simp only [List.map_cons, entriesUnreadable?, h, ih]

theorem unreadable?_redactedListed (v : Toml) :
    v.redactedListed.unreadable? = v.unreadable? := by
  cases v with
  | table es =>
    refine entriesUnreadable?_map (fun k v => if k = "value" then v.redactedScalar else v)
      (fun k v => ?_) es
    split
    · exact unreadable?_redactedScalar v
    · rfl
  | _ => rfl

theorem elementsUnreadable?_redacted (vs : List Toml) :
    elementsUnreadable? (vs.map redactedListed) = elementsUnreadable? vs := by
  induction vs with
  | nil => rfl
  | cons v vs ih =>
    simp only [List.map_cons, elementsUnreadable?, unreadable?_redactedListed, ih]

theorem unreadable?_redactedSettings (v : Toml) :
    v.redactedSettings.unreadable? = v.unreadable? := by
  cases v with
  | array vs => exact elementsUnreadable?_redacted vs
  | table es =>
    exact entriesUnreadable?_map (fun _ v => v.redactedScalar)
      (fun _ v => unreadable?_redactedScalar v) es
  | _ => rfl

end Toml

namespace Layer

/-! ## 4. Reading -/

/-- The raw setting without its value. -/
def RawSetting.redacted : RawSetting → RawSetting
  | .assignment text => .assignment (Setting.redactedText text)
  | .pair key _ => .pair key ""

theorem RawSetting.toSetting_redacted (r : RawSetting) :
    r.redacted.toSetting = r.toSetting.map Setting.redacted := by
  cases r with
  | assignment text => exact Setting.ofAssignment_redactedText text
  | pair key value => exact Setting.ofPair_redacted key value

theorem listed?_redacted (v : Toml) :
    listed? v.redactedListed = (listed? v).map RawSetting.redacted := by
  cases v with
  | string s => rfl
  | table es =>
    let change (k : String) (v : Toml) := if k = "value" then v.redactedScalar else v
    have hkey : Toml.entry? "key" (es.map fun e => (e.1, change e.1 e.2)) = Toml.entry? "key" es :=
      (Toml.entry?_map "key" change es).trans (by simp [change])
    have hvalue : (Toml.entry? "value" (es.map fun e => (e.1, change e.1 e.2))).bind scalar? =
        ((Toml.entry? "value" es).bind scalar?).map fun _ => "" := by
      rw [Toml.entry?_map "value" change es]
      cases Toml.entry? "value" es with
      | none => rfl
      | some v => exact Toml.scalar?_redactedScalar v
    change listed? (.table (es.map fun e => (e.1, change e.1 e.2))) = _
    simp only [listed?, hkey, hvalue]
    cases (Toml.entry? "value" es).bind scalar? with
    | none => simp
    | some value =>
      cases Toml.entry? "key" es with
      | none => rfl
      | some k => cases k <;> rfl
  | _ => rfl

theorem rawSettings?_redacted (v : Toml) :
    rawSettings? v.redactedSettings = (rawSettings? v).map (List.map RawSetting.redacted) := by
  cases v with
  | array vs => exact mapM_map_of_commutes listed?_redacted vs
  | table es =>
    have hentry : ∀ e : String × Toml, (scalar? e.2.redactedScalar).map (RawSetting.pair e.1) =
        RawSetting.redacted <$> ( scalar? e.2).map (RawSetting.pair e.1) := by
      intro e
      rw [Toml.scalar?_redactedScalar]
      cases scalar? e.2 <;> rfl
    exact mapM_map_of_commutes hentry es
  | _ => rfl

/-- **Settings of a redacted value** are those of the value, redacted; and the complaint is the
    same. -/
theorem settings_redacted (key : String) (v : Toml) :
    settings key v.redactedSettings = (settings key v).map (List.map Setting.redacted) := by
  unfold settings
  rw [rawSettings?_redacted]
  cases rawSettings? v with
  | none => rfl
  | some raw =>
    have hraw : toSettings (raw.map RawSetting.redacted) =
        (toSettings raw).map (List.map Setting.redacted) :=
      mapM_map_of_commutes RawSetting.toSetting_redacted raw
    simp only [Option.map_some, hraw]
    cases toSettings raw <;> rfl

end Layer

end DaprHosting
