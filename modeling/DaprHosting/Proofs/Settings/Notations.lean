import DaprHosting.Layer.Load
import DaprHosting.Proofs.Text.Trimmed
import DaprHosting.Proofs.Toml.Lines
import Mathlib.Data.List.Forall2

/-!
# The notations of settings

An entry of settings, a key as it was written and a scalar, can stand in a file as a text
`KEY=VALUE`, as a table with a key and a value, or as an entry of one table; and lists may mix the
first two. Whatever the notation, the entries are read as their outcome: the settings in their
order, or the fault of the first key that is blank. A single text is taken apart at its first `=`.
-/

namespace DaprHosting.Setting

open Layer (RawSetting listed? rawSettings? scalar? toSettings)

/-! ## 1. Single texts -/

/-- A text with its first `=` in it is read as the pair around it. -/
theorem ofAssignment_append {raw : String} (value : String) (h : '=' ∉ raw.toList) :
    ofAssignment (raw ++ "=" ++ value) = ofPair raw value := by
  have htext : (raw ++ "=" ++ value).toList = raw.toList ++ '=' :: value.toList := by
    simp [String.toList_append]
  simp only [ofAssignment, htext, Text.cutAt_append value.toList h, String.ofList_toList]

theorem ofPair_eq (raw value : String) :
    ofPair raw value =
      if Text.trim raw = "" then .error (.blankKey raw) else .ok ⟨Text.trim raw, value⟩ := by
  rw [ofPair, Text.nonBlank?]
  by_cases h : Text.trim raw = ""
  · rw [if_pos h, if_pos h]
  · rw [if_neg h, if_neg h]

/-- **A text is a setting exactly if it is a key that is not blank, `=` and the value**, without an
    `=` in the key. -/
theorem ofAssignment_eq_ok_iff {text : String} {s : Setting} :
    ofAssignment text = .ok s ↔
      ∃ raw, text = raw ++ "=" ++ s.value ∧ '=' ∉ raw.toList ∧ s.key = Text.trim raw ∧
        s.key ≠ "" := by
  constructor
  · intro h
    cases hcut : Text.cutAt '=' text.toList with
    | mk key rest =>
      cases rest with
      | none =>
        simp only [ofAssignment, hcut] at h
        cases h
      | some value =>
        obtain ⟨htext, hkey⟩ := Text.cutAt_eq_some_iff.mp hcut
        simp only [ofAssignment, hcut, ofPair_eq] at h
        split at h
        · cases h
        · rename_i hne
          cases h
          refine ⟨String.ofList key, ?_, by rwa [String.toList_ofList], rfl, hne⟩
          apply String.toList_injective
          simp [String.toList_append, htext]
  · rintro ⟨raw, rfl, hraw, hkey, hne⟩
    rw [ofAssignment_append _ hraw, ofPair_eq, ← hkey, if_neg hne]

/-! ## 2. Entries -/

/-- A scalar of a file that settings are written with. -/
inductive Scalar where
  | text (s : String)
  | flag (b : Bool)
  | integer (n : Int64)

/-- The value in the file. -/
def Scalar.toToml : Scalar → Toml
  | .text s => .string s
  | .flag b => .boolean b
  | .integer n => .integer n.toInt

/-- The text that a scalar is as the value of a setting. -/
def Scalar.canonical : Scalar → String
  | .text s => s
  | .flag b => toString b
  | .integer n => toString n.toInt

/-- **An entry of settings**: a key as it was written, blanks around it included, and a scalar. -/
structure Entry where
  rawKey : String
  scalar : Scalar
  /-- Otherwise the key of a text would end before. -/
  noEquals : '=' ∉ rawKey.toList

/-- **What entries stand for**: the settings in their order, or the fault of the first key that is
    blank. -/
def outcome (es : List Entry) : Except Fault (List Setting) :=
  match es.find? fun e => Text.trim e.rawKey = "" with
  | some e => .error (.blankKey e.rawKey)
  | none => .ok (es.map fun e => ⟨Text.trim e.rawKey, e.scalar.canonical⟩)

/-- The setting of one entry. -/
def Entry.setting (e : Entry) : Except Fault Setting := ofPair e.rawKey e.scalar.canonical

/-- The first fault of the settings is the outcome, or their list. -/
theorem mapM_setting (es : List Entry) : es.mapM Entry.setting = outcome es := by
  induction es with
  | nil => rfl
  | cons e es ih =>
    rw [List.mapM_cons, ih, Entry.setting, ofPair_eq, outcome, outcome]
    by_cases h : Text.trim e.rawKey = ""
    · rw [if_pos h, List.find?_cons_of_pos (by simpa using h)]
      rfl
    · rw [if_neg h, List.find?_cons_of_neg (by simpa using h)]
      cases es.find? fun e => Text.trim e.rawKey = "" <;> rfl

/-! ## 3. Notations as values -/

theorem scalar?_toToml (x : Scalar) : scalar? x.toToml = some x.canonical := by
  cases x with
  | text s => rfl
  | flag b => cases b <;> rfl
  | integer n =>
    have hmax := n.toInt_le
    exact if_pos hmax

/-- **An entry in a list**: a text, or a table in which its key and its scalar are found, whatever
    else this holds. -/
inductive Listed (e : Entry) : Toml → Prop where
  | assignment : Listed e (.string (e.rawKey ++ "=" ++ e.scalar.canonical))
  | pair {fields : List (String × Toml)} (hkey : Toml.entry? "key" fields = some (.string e.rawKey))
      (hvalue : Toml.entry? "value" fields = some e.scalar.toToml) : Listed e (.table fields)

/-- Entries as those of one table. -/
def tableOf (es : List Entry) : List (String × Toml) :=
  es.map fun e => (e.rawKey, e.scalar.toToml)

/-- **Entries in a file**: a list of them, or one table. -/
inductive Noted (es : List Entry) : Toml → Prop where
  | list {vs : List Toml} (h : List.Forall₂ Listed es vs) : Noted es (.array vs)
  | table : Noted es (.table (tableOf es))

/-- An entry of a list is read as a raw setting, which stands for its own. -/
theorem listed?_of_listed {e : Entry} {v : Toml} (h : Listed e v) :
    ∃ raw, listed? v = some raw ∧ raw.toSetting = e.setting := by
  cases h with
  | assignment => exact ⟨_, rfl, ofAssignment_append _ e.noEquals⟩
  | pair hkey hvalue =>
    refine ⟨.pair e.rawKey e.scalar.canonical, ?_, rfl⟩
    rw [listed?, hkey, hvalue, Option.bind_some, scalar?_toToml]

/-- Entries in any notation are read as raw settings, which stand for theirs. -/
theorem rawSettings?_of_noted {es : List Entry} {v : Toml} (h : Noted es v) :
    ∃ raw, rawSettings? v = some raw ∧ toSettings raw = es.mapM Entry.setting := by
  cases h with
  | list h =>
    rw [rawSettings?]
    induction h with
    | nil => exact ⟨[], rfl, rfl⟩
    | cons hv _ ih =>
      obtain ⟨r, hr, hsetting⟩ := listed?_of_listed hv
      obtain ⟨raw, hraw, hsettings⟩ := ih
      refine ⟨r :: raw, ?_, ?_⟩
      · rw [List.mapM_cons, hr, hraw]
        rfl
      · rw [toSettings] at hsettings ⊢
        rw [List.mapM_cons, List.mapM_cons, hsetting, hsettings]
  | table =>
    have hsettings : toSettings (es.map fun e => .pair e.rawKey e.scalar.canonical) =
        es.mapM Entry.setting := by
      rw [toSettings, List.mapM_map]
      rfl
    refine ⟨_, ?_, hsettings⟩
    have hpair : (fun e : String × Toml => (scalar? e.2).map (RawSetting.pair e.1)) ∘
        (fun e : Entry => (e.rawKey, e.scalar.toToml)) =
        fun e => pure (RawSetting.pair e.rawKey e.scalar.canonical) := by
      funext e
      exact congrArg (Option.map _) (scalar?_toToml e.scalar)
    rw [rawSettings?, tableOf, List.mapM_map, hpair, List.mapM_pure]
    rfl

/-- **Every notation has the outcome of its entries.** -/
theorem settings_of_noted (option : String) {es : List Entry} {v : Toml} (h : Noted es v) :
    Layer.settings option v = (outcome es).mapError fun f => .parse (.told f.message) := by
  obtain ⟨raw, hraw, hsettings⟩ := rawSettings?_of_noted h
  rw [Layer.settings, hraw, ← mapM_setting, ← hsettings]
  rfl

/-! ## 4. Notations as texts -/

/-- The two forms of an entry in a list. -/
inductive Form where
  | assignment | pair

/-- The value that is written for an entry in a list. -/
def Form.write : Form → Entry → Toml
  | .assignment, e => .string (e.rawKey ++ "=" ++ e.scalar.canonical)
  | .pair, e => .table [("key", .string e.rawKey), ("value", e.scalar.toToml)]

/-- **The texts of entries under an option**: a list, in which each entry has its own form, a table
    in one line, or a table behind its header. -/
inductive NotedIn (option : String) : List Entry → String → Prop where
  | list (items : List (Form × Entry)) :
      NotedIn option (items.map Prod.snd)
        (Toml.documentText [(option, .array (items.map fun i => i.1.write i.2))] [])
  | inline {es : List Entry} (hkeys : (es.map Entry.rawKey).Nodup) :
      NotedIn option es (Toml.documentText [(option, .table (tableOf es))] [])
  | headed {es : List Entry} (hkeys : (es.map Entry.rawKey).Nodup) :
      NotedIn option es (Toml.documentText [] [(option, tableOf es)])

theorem listed_write (form : Form) (e : Entry) : Listed e (form.write e) := by
  cases form with
  | assignment => exact .assignment
  | pair => exact .pair rfl rfl

/-- A scalar has a text, since 64 bits with a sign hold its number. -/
theorem printable_scalar {depth : Nat} (x : Scalar) : Toml.Printable depth x.toToml := by
  cases x with
  | text s => exact .string s
  | flag b => exact .boolean b
  | integer n =>
    have hlow := n.le_toInt
    have hhigh := n.toInt_lt
    refine .integer ?_ ?_
    · simp only [Word.maxSigned64]
      omega
    · simp only [Word.max64]
      omega

theorem printable_write {depth : Nat} (form : Form) (e : Entry) :
    Toml.Printable (depth + 1) (form.write e) := by
  cases form with
  | assignment => exact .string _
  | pair =>
    have hnames : ["key", "value"].Nodup := by decide
    refine .table hnames ?_
    simp only [List.mem_cons, List.not_mem_nil, or_false, forall_eq_or_imp, forall_eq]
    exact ⟨.string _, printable_scalar _⟩

theorem printable_of_mem_tableOf {depth : Nat} {es : List Entry} {e : String × Toml}
    (he : e ∈ tableOf es) : Toml.Printable depth e.2 := by
  obtain ⟨entry, -, rfl⟩ := List.mem_map.mp he
  exact printable_scalar _

theorem names_tableOf (es : List Entry) : (tableOf es).map Prod.fst = es.map Entry.rawKey := by
  rw [tableOf, List.map_map]
  rfl

/-- **Each text is read as a value in a notation of the entries.** -/
theorem read?_of_notedIn {option : String} {es : List Entry} {text : String}
    (h : NotedIn option es text) :
    ∃ v, Toml.read? text = some [(option, v)] ∧ Noted es v ∧
      Toml.Printable Toml.maxDepth v := by
  have hread : ∀ {v : Toml}, Toml.Printable Toml.maxDepth v →
      Toml.read? (Toml.documentText [(option, v)] []) = some [(option, v)] := by
    intro v hv
    have hvalues : ∀ e ∈ [(option, v)], Toml.Printable Toml.maxDepth e.2 := by
      simpa using hv
    exact Toml.read?_document (List.nodup_cons.mpr ⟨List.not_mem_nil, List.nodup_nil⟩) hvalues nofun
  have htable : ∀ {es}, (es.map Entry.rawKey).Nodup →
      Toml.Printable Toml.maxDepth (.table (tableOf es)) := fun hkeys =>
    .table (by rwa [names_tableOf]) fun e he => printable_of_mem_tableOf he
  cases h with
  | list items =>
    have hprintable : Toml.Printable Toml.maxDepth (.array (items.map fun i => i.1.write i.2)) := by
      refine .array fun v hv => ?_
      obtain ⟨i, -, rfl⟩ := List.mem_map.mp hv
      exact printable_write i.1 i.2
    have hlisted : List.Forall₂ Listed (items.map Prod.snd) (items.map fun i => i.1.write i.2) := by
      rw [List.forall₂_map_left_iff, List.forall₂_map_right_iff, List.forall₂_same]
      exact fun i _ => listed_write i.1 i.2
    exact ⟨_, hread hprintable, .list hlisted, hprintable⟩
  | inline hkeys => exact ⟨_, hread (htable hkeys), .table, htable hkeys⟩
  | headed hkeys =>
    have hentries : ∀ t ∈ [(option, tableOf es)], Toml.PrintableEntries t.2 := by
      simp only [List.mem_singleton, forall_eq]
      exact ⟨by rwa [names_tableOf], fun e he => printable_of_mem_tableOf he⟩
    refine ⟨_, ?_, .table, htable hkeys⟩
    exact Toml.read?_document (List.nodup_cons.mpr ⟨List.not_mem_nil, List.nodup_nil⟩) nofun
      hentries

/-! ## 5. Files -/

/-- The options that take settings, and the layer that is left of a file with nothing else. -/
def places : List (String × (List Setting → SettingsLayer)) :=
  [("configuration-settings", fun ss => { settings := ss }),
   ("configuration-protected-settings", fun ss => { protectedSettings := ss })]

/-- A file with nothing but settings is read as these, under either command. -/
theorem ofEntries_place {o : String × (List Setting → SettingsLayer)} (ho : o ∈ places) {v : Toml}
    (hv : v.unreadable? = none) :
    InstallLayer.ofEntries [(o.1, v)] =
        (Layer.settings o.1 v).map (fun ss => { settings := o.2 ss }) ∧
      UpdateLayer.ofEntries [(o.1, v)] =
        (Layer.settings o.1 v).map fun ss => { settings := o.2 ss } := by
  have hinstall : Layer.storeOwn InstallLayer.fields {} [(o.1, v)] = .ok {} := by
    simp only [places, List.mem_cons, List.not_mem_nil, or_false] at ho
    rcases ho with rfl | rfl <;> simp [Layer.storeOwn, hv] <;> rfl
  have hupdate : Layer.storeOwn UpdateLayer.fields {} [(o.1, v)] = .ok {} := by
    simp only [places, List.mem_cons, List.not_mem_nil, or_false] at ho
    rcases ho with rfl | rfl <;> simp [Layer.storeOwn, hv] <;> rfl
  have hlogging : Layer.storeAll LoggingLayer.fields {} [(o.1, v)] = .ok {} := by
    simp only [places, List.mem_cons, List.not_mem_nil, or_false] at ho
    rcases ho with rfl | rfl <;> rfl
  have hsettings : Layer.storeAll SettingsLayer.fields {} [(o.1, v)] =
      (Layer.settings o.1 v).map o.2 := by
    have hone : Layer.storeAll SettingsLayer.fields {} [(o.1, v)] =
        Layer.storeEntry SettingsLayer.fields {} (o.1, v) := by
      rw [Layer.storeAll, List.foldlM_cons]
      exact bind_pure _
    rw [hone]
    simp only [places, List.mem_cons, List.not_mem_nil, or_false] at ho
    rcases ho with rfl | rfl <;> rfl
  constructor
  · rw [InstallLayer.ofEntries, hinstall, hsettings, hlogging]
    cases Layer.settings o.1 v <;> rfl
  · rw [UpdateLayer.ofEntries, hupdate, hsettings, hlogging]
    cases Layer.settings o.1 v <;> rfl

/-- **A file with nothing but settings, in any notation, has the outcome of its entries.** -/
theorem ofText_of_notedIn {o : String × (List Setting → SettingsLayer)} (ho : o ∈ places)
    {es : List Entry} {text : String} (h : NotedIn o.1 es text) :
    Layer.install.ofText text = ((outcome es).mapError fun f => .parse (.told f.message)).map
        (fun ss => { settings := o.2 ss }) ∧
      Layer.update.ofText text = ((outcome es).mapError fun f => .parse (.told f.message)).map
        fun ss => { settings := o.2 ss } := by
  obtain ⟨v, hread, hnoted, hprintable⟩ := read?_of_notedIn h
  obtain ⟨hinstall, hupdate⟩ := ofEntries_place ho (Toml.unreadable?_of_printable hprintable)
  rw [settings_of_noted o.1 hnoted] at hinstall hupdate
  constructor
  · rw [Layer.Kind.ofText, hread]
    exact hinstall
  · rw [Layer.Kind.ofText, hread]
    exact hupdate

/-- **All notations agree.** Entries of settings have their outcome from every value in one of the
    notations, and from every file in one of them, under either option and either command. A single
    text is a setting exactly if it is a key without `=` that is not blank, `=` and the value; so
    each setting with such a key, trimmed, is read back from its text. -/
theorem notations_agree :
    (∀ (option : String) (es : List Entry) (v : Toml), Noted es v →
      Layer.settings option v = (outcome es).mapError fun f => .parse (.told f.message)) ∧
    (∀ o ∈ places, ∀ (es : List Entry) (text : String), NotedIn o.1 es text →
      Layer.install.ofText text = ((outcome es).mapError fun f => .parse (.told f.message)).map
          (fun ss => { settings := o.2 ss }) ∧
        Layer.update.ofText text = ((outcome es).mapError fun f => .parse (.told f.message)).map
          fun ss => { settings := o.2 ss }) ∧
    (∀ (text : String) (s : Setting), ofAssignment text = .ok s ↔
      ∃ raw, text = raw ++ "=" ++ s.value ∧ '=' ∉ raw.toList ∧ s.key = Text.trim raw ∧
        s.key ≠ "") ∧
    ∀ s : Setting, Text.trim s.key = s.key → s.key ≠ "" → '=' ∉ s.key.toList →
      ofAssignment (s.key ++ "=" ++ s.value) = .ok s := by
  refine ⟨fun option es v => settings_of_noted option, fun o ho es text => ofText_of_notedIn ho,
    fun text s => ofAssignment_eq_ok_iff, fun s htrim hne hplain => ?_⟩
  exact ofAssignment_eq_ok_iff.mpr ⟨s.key, rfl, hplain, htrim.symm, hne⟩

/-- A list of two forms and a table with a header have the same settings, and both the fault of the
    key that an ideographic space is. -/
theorem notations_agree_list_and_table :
    let ha : Entry := ⟨" global.ha.enabled", .flag true, by decide⟩
    let args : Entry := ⟨"dapr_operator.args\t", .text "--a=b", by decide⟩
    let blank : Entry := ⟨"\u3000", .integer (-1), by decide⟩
    let plain := "configuration-settings"
    let list (items : List (Form × Entry)) : String :=
      Toml.documentText [(plain, .array (items.map fun i => i.1.write i.2))] []
    let table (es : List Entry) : String := Toml.documentText [] [(plain, tableOf es)]
    let settings : List Setting := [⟨"global.ha.enabled", "true"⟩, ⟨"dapr_operator.args", "--a=b"⟩]
    Layer.update.ofText (list [(.pair, ha), (.assignment, args)]) =
        .ok { settings := { settings := settings } } ∧
      Layer.update.ofText (table [ha, args]) = .ok { settings := { settings := settings } } ∧
      Layer.update.ofText (list [(.assignment, ha), (.pair, blank)]) =
        .error (.parse (.told "empty setting key in '\u3000'")) ∧
      Layer.update.ofText (table [ha, blank]) = .error (.parse (.told "empty setting key in '\u3000'")) ∧
      ofAssignment ("dapr_operator.args" ++ "=" ++ "--a=b") = .ok ⟨"dapr_operator.args", "--a=b"⟩ := by
  intro ha args blank plain list table settings
  obtain ⟨-, hfiles, -, hinverse⟩ := notations_agree
  have hplain : (plain, fun ss => ({ settings := ss } : SettingsLayer)) ∈ places :=
    List.mem_cons_self ..
  have houtcome : outcome [ha, args] = .ok settings := by decide
  have hfault : outcome [ha, blank] = .error (.blankKey "\u3000") := by decide
  have hok : ∀ {text}, NotedIn plain [ha, args] text →
      Layer.update.ofText text = .ok { settings := { settings := settings } } := by
    intro text htext
    rw [(hfiles _ hplain _ text htext).2, houtcome]
    rfl
  have herror : ∀ {text}, NotedIn plain [ha, blank] text →
      Layer.update.ofText text = .error (.parse (.told "empty setting key in '\u3000'")) := by
    intro text htext
    rw [(hfiles _ hplain _ text htext).2, hfault]
    rfl
  have hkeys : ([ha, args].map Entry.rawKey).Nodup ∧ ([ha, blank].map Entry.rawKey).Nodup := by
    decide
  refine ⟨hok (.list [(.pair, ha), (.assignment, args)]), hok (.headed hkeys.1),
    herror (.list [(.assignment, ha), (.pair, blank)]), herror (.headed hkeys.2), ?_⟩
  exact hinverse ⟨"dapr_operator.args", "--a=b"⟩ (by decide) (by decide) (by decide)

end DaprHosting.Setting
