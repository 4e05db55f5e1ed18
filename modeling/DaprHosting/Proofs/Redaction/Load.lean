import DaprHosting.Failure
import DaprHosting.Proofs.Layer.Sources
import DaprHosting.Proofs.Redaction.Layers
import DaprHosting.Proofs.Redaction.Sketch

/-!
# Loading without protected values

What a line gives is stored like what a file has, and redaction commutes with it in the same way
(`OptionSpec.Redacts`). A kind of layer with which it commutes throughout (`Kind.Redacts`) loads the
same but for protected values from lines and files that are the same but for them, or fails with
what is seen as the same complaint: `Kind.Redacts.load_options_eq`.
-/

namespace DaprHosting

open CommandLine Layer
open SettingsLayer (protectedName)

variable {ρ τ κ : Type}

/-! ## 1. Lines -/

namespace CommandLine

/-- The text of an option without what is protected of it. -/
def redactedText (name text : String) : String :=
  if name = protectedName then Setting.redactedText text else text

/-- The value of a line without what is protected of it. -/
def redactedGiven (e : String × String) : String × String := (e.1, redactedText e.1 e.2)

/-- An option of the line takes a redacted text as it takes the text, but for redaction. -/
structure OptionSpec.Redacts (hide : ρ → ρ) (o : OptionSpec ρ) : Prop where
  store : ∀ l text, o.store (redactedText o.long text) (hide l) = (o.store text l).map hide

namespace OptionSpec.Redacts

variable {hide : ρ → ρ} {name : String}

/-- An option that is not protected. -/
theorem plain {o : OptionSpec ρ} (hname : o.long ≠ protectedName)
    (h : ∀ l text, o.store text (hide l) = (o.store text l).map hide) : o.Redacts hide where
  store l text := by
    rw [redactedText, if_neg hname]
    exact h l text

theorem text {set : ρ → String → ρ} (hname : name ≠ protectedName)
    (hset : ∀ l v, set (hide l) v = hide (set l v)) : (textOption name set).Redacts hide :=
  .plain hname fun l v => congrArg Except.ok (hset l v)

theorem choice {α : Type} {read : String → Option α} {set : ρ → α → ρ}
    (hname : name ≠ protectedName) (hset : ∀ l a, set (hide l) a = hide (set l a)) :
    (choiceOption name read set).Redacts hide := by
  refine .plain hname fun l v => ?_
  simp only [choiceOption]
  cases read v with
  | none => rfl
  | some a => exact congrArg Except.ok (hset l a)

theorem read {α : Type} {read : String → Option α} {set : ρ → α → ρ}
    (hname : name ≠ protectedName) (hset : ∀ l a, set (hide l) a = hide (set l a)) :
    (readOption name read set).Redacts hide := by
  refine .plain hname fun l v => ?_
  simp only [readOption]
  cases read v with
  | none => rfl
  | some a => exact congrArg Except.ok (hset l a)

theorem timeout {set : ρ → RequestTimeout → ρ} (hname : name ≠ protectedName)
    (hset : ∀ l t, set (hide l) t = hide (set l t)) : (timeoutOption name set).Redacts hide := by
  refine .plain hname fun l v => ?_
  simp only [timeoutOption]
  cases RequestTimeout.read v with
  | ok t => exact congrArg Except.ok (hset l t)
  | error f => cases f <;> rfl

theorem orVariable {o : OptionSpec ρ} (h : o.Redacts hide) (v : String) :
    (o.orVariable v).Redacts hide := ⟨h.store⟩

theorem orLetter {o : OptionSpec ρ} (h : o.Redacts hide) (c : Char) :
    (o.orLetter c).Redacts hide := ⟨h.store⟩

/-- An option of a part is one of the whole. -/
theorem within {o : OptionSpec ρ} (h : o.Redacts hide) {get : τ → ρ} {set : τ → ρ → τ}
    {hideAll : τ → τ} (hget : ∀ t, get (hideAll t) = hide (get t))
    (hset : ∀ t l, set (hideAll t) (hide l) = hideAll (set t l)) :
    (o.within get set).Redacts hideAll where
  store t v := by
    simp only [OptionSpec.within, hget, h.store]
    cases o.store v (get t) with
    | error e => rfl
    | ok l => exact congrArg Except.ok (hset t l)

end OptionSpec.Redacts

/-- Settings that are not protected. -/
theorem redacts_settingOption {hide : SettingsLayer → SettingsLayer} {name : String}
    {add : SettingsLayer → Setting → SettingsLayer} (hname : name ≠ protectedName)
    (hadd : ∀ l s, add (hide l) s = hide (add l s)) : (settingOption name add).Redacts hide := by
  have hread : (readOption name (fun v => (Setting.ofAssignment v).toOption) add).Redacts hide :=
    .read hname hadd
  exact ⟨hread.store⟩

/-- The option that is protected. -/
theorem redacts_protectedOption :
    (settingOption protectedName
      fun l a => { l with protectedSettings := l.protectedSettings ++ [a] }).Redacts
        SettingsLayer.redacted where
  store l text := by
    have htext : redactedText protectedName text = Setting.redactedText text := if_pos rfl
    simp only [settingOption, readOption, htext, Setting.ofAssignment_redactedText]
    cases Setting.ofAssignment text with
    | error e => rfl
    | ok s => simp [Except.map, Except.toOption, SettingsLayer.redacted]

theorem redacts_settingsOptions :
    ∀ o ∈ settingsOptions, o.Redacts SettingsLayer.redacted := by
  simp only [settingsOptions, List.forall_mem_cons, List.not_mem_nil, false_imp_iff,
    implies_true, and_true]
  exact ⟨.choice (by decide) fun _ _ => rfl, .text (by decide) fun _ _ => rfl,
    .text (by decide) fun _ _ => rfl, redacts_settingOption (by decide) fun _ _ => rfl,
    redacts_protectedOption⟩

theorem redacts_loggingOptions : ∀ o ∈ loggingOptions, o.Redacts id := by
  simp only [loggingOptions, List.forall_mem_cons, List.not_mem_nil, false_imp_iff,
    implies_true, and_true]
  and_intros <;> refine .orVariable ?_ _ <;> exact .choice (by decide) fun _ _ => rfl

theorem redacts_installOptions : ∀ o ∈ installOptions, o.Redacts InstallLayer.redacted := by
  simp only [installOptions, List.forall_mem_append, List.forall_mem_map]
  refine ⟨⟨?_, ?_⟩, ?_⟩
  · simp only [List.forall_mem_cons, List.not_mem_nil, false_imp_iff, implies_true, and_true]
    exact ⟨.text (by decide) fun _ _ => rfl, .text (by decide) fun _ _ => rfl,
      .text (by decide) fun _ _ => rfl, .choice (by decide) fun _ _ => rfl,
      .text (by decide) fun _ _ => rfl⟩
  · exact fun o ho => (redacts_settingsOptions o ho).within (fun _ => rfl) fun _ _ => rfl
  · exact fun o ho => (redacts_loggingOptions o ho).within (fun _ => rfl) fun _ _ => rfl

theorem redacts_updateOptions : ∀ o ∈ updateOptions, o.Redacts UpdateLayer.redacted := by
  simp only [updateOptions, List.forall_mem_append, List.forall_mem_map]
  refine ⟨⟨?_, ?_⟩, ?_⟩
  · simp only [List.forall_mem_cons, List.not_mem_nil, false_imp_iff, implies_true, and_true]
    exact .choice (by decide) fun _ _ => rfl
  · exact fun o ho => (redacts_settingsOptions o ho).within (fun _ => rfl) fun _ _ => rfl
  · exact fun o ho => (redacts_loggingOptions o ho).within (fun _ => rfl) fun _ _ => rfl

theorem redacts_connectionOptions : ∀ o ∈ connectionOptions, o.Redacts id := by
  simp only [connectionOptions, List.forall_mem_cons, List.not_mem_nil, false_imp_iff,
    implies_true, and_true]
  refine ⟨.orVariable ?_ _, .orVariable ?_ _, .orVariable ?_ _, .orVariable ?_ _, .orVariable ?_ _⟩
  · exact .read (by decide) fun _ _ => rfl
  · exact .read (by decide) fun _ _ => rfl
  · exact .read (by decide) fun _ _ => rfl
  · exact .text (by decide) fun _ _ => rfl
  · exact .timeout (by decide) fun _ _ => rfl

theorem redacts_bindingOptions : ∀ o ∈ bindingOptions, o.Redacts id := by
  simp only [bindingOptions, List.forall_mem_append, List.forall_mem_map]
  refine ⟨⟨?_, ?_⟩, ?_⟩
  · simp only [List.forall_mem_cons, List.not_mem_nil, false_imp_iff, implies_true, and_true]
    refine ⟨?_, ?_, .orLetter (.orVariable ?_ _) _, .orVariable ?_ _, .orLetter ?_ _⟩
    · exact .choice (by decide) fun _ _ => rfl
    · exact .choice (by decide) fun _ _ => rfl
    · exact .text (by decide) fun _ _ => rfl
    · exact .text (by decide) fun _ _ => rfl
    · exact .text (by decide) fun _ _ => rfl
  · exact fun o ho => (redacts_connectionOptions o ho).within (fun _ => rfl) fun _ _ => rfl
  · exact fun o ho => (redacts_loggingOptions o ho).within (fun _ => rfl) fun _ _ => rfl

section Accepted

variable {hide : ρ → ρ} {specs : List (OptionSpec ρ)} (h : ∀ o ∈ specs, o.Redacts hide)

include h in
theorem storeNamed_redacted (l : ρ) (e : String × String) :
    storeNamed specs (hide l) (redactedGiven e) = (storeNamed specs l e).map hide := by
  unfold storeNamed redactedGiven
  cases hfind : specs.find? fun o => o.long == e.1 with
  | none => rfl
  | some o =>
    have hlong : o.long = e.1 := by simpa only [beq_iff_eq] using List.find?_some hfind
    have hstore := (h o (List.mem_of_find?_eq_some hfind)).store l e.2
    rw [hlong] at hstore
    exact hstore

/-- Lines that give the same but for protected values are accepted with the same. -/
theorem accepted_redacted {environment : String → Option String} {words words' : List String}
    (hgiven : (given specs words).map redactedGiven = (given specs words').map redactedGiven) :
    (accepted specs environment words).map redactedGiven =
      (accepted specs environment words').map redactedGiven := by
  have hnames : (given specs words).map Prod.fst = (given specs words').map Prod.fst := by
    have hfst := congrArg (List.map Prod.fst) hgiven
    rw [List.map_map, List.map_map] at hfst
    exact hfst
  rw [accepted, accepted, List.map_append, List.map_append, hgiven, hnames]

include h in
/-- **Lines that are accepted and give the same but for protected values** leave options that are
    the same but for them. -/
theorem options_redacted (hn : (specs.map (·.long)).Nodup)
    {environment : String → Option String} {start l l' : ρ} {words words' : List String}
    (hread : readOptions specs environment start words = .ok l)
    (hread' : readOptions specs environment start words' = .ok l')
    (hgiven : (given specs words).map redactedGiven = (given specs words').map redactedGiven) :
    hide l = hide l' := by
  have hfold := foldlM_map_of_commutes (storeNamed_redacted h) (accepted specs environment words)
    start
  have hfold' := foldlM_map_of_commutes (storeNamed_redacted h) (accepted specs environment words')
    start
  rw [(readOptions_eq_ok hn hread).1, accepted_redacted hgiven] at hfold
  rw [(readOptions_eq_ok hn hread').1, hfold] at hfold'
  exact Except.ok.inj hfold'

end Accepted

end CommandLine

/-! ## 2. Files -/

/-- What a text reads as without protected values: its entries without them or, where it is no
    document, its sketch. -/
def redactedDocument (text : String) : Except String (List (String × Toml)) :=
  match Toml.read? text with
  | some entries => .ok (entries.map redactedEntry)
  | none => .error (Toml.sketch text)

theorem redactedDocument_eq_ok {text : String} {entries : List (String × Toml)}
    (h : redactedDocument text = .ok entries) :
    ∃ document, Toml.read? text = some document ∧ document.map redactedEntry = entries := by
  unfold redactedDocument at h
  split at h
  · rename_i document hread
    exact ⟨document, hread, Except.ok.inj h⟩
  · cases h

theorem redactedDocument_eq_error {text sketch : String}
    (h : redactedDocument text = .error sketch) :
    Toml.read? text = none ∧ Toml.sketch text = sketch := by
  unfold redactedDocument at h
  split at h
  · cases h
  · rename_i hread
    exact ⟨hread, Except.error.inj h⟩

/-- What a file reads as without protected values. -/
def redactedFile (read : Except FileError String) :
    Except FileError (Except String (List (String × Toml))) :=
  read.map redactedDocument

/-- What is seen of an error: the exit code and the message. -/
def Layer.Error.seen (w : Wording) (e : Layer.Error) : ExitCode × String :=
  (e.exitCode, e.message w)

/-- What goes on with a result sees an error as it is seen. -/
theorem bind_mapError_congr {ε δ α β : Type} {f : ε → δ} {x x' : Except ε α}
    (h : x.mapError f = x'.mapError f) (g : α → Except ε β) :
    (x >>= g).mapError f = (x' >>= g).mapError f := by
  cases x with
  | ok a =>
    cases x' with
    | ok a' =>
      obtain rfl := Except.ok.inj h
      rfl
    | error e' => cases h
  | error e =>
    cases x' with
    | ok a' => cases h
    | error e' => exact congrArg Except.error (Except.error.inj h)

/-! ## 3. Kinds of layer -/

namespace Layer

/-- Redaction commutes with all that is done with a kind of layer. -/
structure Kind.Redacts (kind : Kind ρ κ) (specs : List (OptionSpec ρ)) (hide : ρ → ρ)
    (hideConfig : κ → κ) : Prop where
  options : ∀ o ∈ specs, o.Redacts hide
  ofEntries : ∀ entries,
    kind.ofEntries (entries.map redactedEntry) = (kind.ofEntries entries).map hide
  overlay : ∀ base top, hide (kind.overlay base top) = kind.overlay (hide base) (hide top)
  resolve : ∀ l, kind.resolve (hide l) = (kind.resolve l).map hideConfig

theorem redacts_install :
    install.Redacts installOptions InstallLayer.redacted InstallConfig.redacted where
  options := redacts_installOptions
  ofEntries := InstallLayer.ofEntries_redacted
  overlay base top := by
    simp only [install, InstallLayer.redacted, InstallLayer.overlay, SettingsLayer.overlay_redacted]
  resolve := InstallLayer.resolve_redacted

theorem redacts_update :
    update.Redacts updateOptions UpdateLayer.redacted UpdateConfig.redacted where
  options := redacts_updateOptions
  ofEntries := UpdateLayer.ofEntries_redacted
  overlay base top := by
    simp only [update, UpdateLayer.redacted, UpdateLayer.overlay, SettingsLayer.overlay_redacted]
  resolve := UpdateLayer.resolve_redacted

theorem redacts_binding : binding.Redacts bindingOptions id id where
  options := redacts_bindingOptions
  ofEntries := BindingLayer.ofEntries_redacted
  overlay _ _ := rfl
  resolve l := by
    change binding.resolve l = (binding.resolve l).map id
    cases binding.resolve l <;> rfl

namespace Kind.Redacts

variable {kind : Kind ρ κ} {specs : List (OptionSpec ρ)} {hide : ρ → ρ} {hideConfig : κ → κ}
  {files files' : Files} {w : Wording}

/-- A document without its protected values has the layer without them. -/
theorem ofText_of_document (h : kind.Redacts specs hide hideConfig) {text : String}
    {entries : List (String × Toml)} (hdocument : redactedDocument text = .ok entries) :
    (kind.ofText text).map hide = kind.ofEntries entries := by
  obtain ⟨document, hread, rfl⟩ := redactedDocument_eq_ok hdocument
  rw [h.ofEntries, Kind.ofText, hread]

/-- Texts that are the same but for protected values have layers that are, or what is seen of their
    errors is the same. -/
theorem ofText_eq (h : kind.Redacts specs hide hideConfig) (hw : w.Discreet) {text text' : String}
    (htext : redactedDocument text = redactedDocument text') :
    ((kind.ofText text).map hide).mapError (Error.seen w) =
      ((kind.ofText text').map hide).mapError (Error.seen w) := by
  cases hdocument : redactedDocument text with
  | ok entries =>
    rw [h.ofText_of_document hdocument, h.ofText_of_document (htext ▸ hdocument)]
  | error sketch =>
    obtain ⟨hread, hsketch⟩ := redactedDocument_eq_error hdocument
    obtain ⟨hread', hsketch'⟩ := redactedDocument_eq_error (htext ▸ hdocument)
    have hwords : w.noToml text = w.noToml text' :=
      hw.noToml hread hread' (hsketch.trans hsketch'.symm)
    have hmessage : Error.message w (.parse (.noToml text)) =
        Error.message w (.parse (.noToml text')) :=
      congrArg ("failed to parse TOML configuration: " ++ ·) hwords
    rw [Kind.ofText, Kind.ofText, hread, hread']
    exact congrArg (fun message => Except.error (ExitCode.config, message)) hmessage

/-- Files that are the same but for protected values have layers that are. -/
theorem ofFile_eq (h : kind.Redacts specs hide hideConfig) (hw : w.Discreet) {path : Option String}
    (hfile : ∀ p, path = some p → redactedFile (files p) = redactedFile (files' p)) :
    ((kind.ofFile files path).map hide).mapError (Error.seen w) =
      ((kind.ofFile files' path).map hide).mapError (Error.seen w) := by
  cases path with
  | none => rfl
  | some path =>
    have hread := hfile path rfl
    simp only [Kind.ofFile]
    cases hfiles : files path with
    | error e =>
      cases hfiles' : files' path with
      | error e' =>
        rw [hfiles, hfiles'] at hread
        rw [Except.error.inj hread]
      | ok text' =>
        rw [hfiles, hfiles'] at hread
        cases hread
    | ok text =>
      cases hfiles' : files' path with
      | error e' =>
        rw [hfiles, hfiles'] at hread
        cases hread
      | ok text' =>
        rw [hfiles, hfiles'] at hread
        exact h.ofText_eq hw (Except.ok.inj hread)

/-- **What is loaded is the same but for protected values**, or what is seen of the error is. -/
theorem load_eq (h : kind.Redacts specs hide hideConfig) (hw : w.Discreet) {path : Option String}
    (hfile : ∀ p, path = some p → redactedFile (files p) = redactedFile (files' p))
    {top top' : ρ} (htop : hide top = hide top') :
    ((kind.load files path top).map hideConfig).mapError (Error.seen w) =
      ((kind.load files' path top').map hideConfig).mapError (Error.seen w) := by
  have hload : ∀ (files : Files) (top : ρ), (kind.load files path top).map hideConfig =
      (kind.ofFile files path).map hide >>= fun base =>
        kind.resolve (kind.overlay base (hide top)) := by
    intro files top
    refine (bind_map_of_commutes (fun base => ?_) _).symm
    rw [← h.overlay, h.resolve]
  rw [hload, hload, htop]
  exact bind_mapError_congr (h.ofFile_eq hw hfile) _

/-- **A command loads the same but for protected values** from lines that it accepts and that give
    the same but for them. -/
theorem load_options_eq (h : kind.Redacts specs hide hideConfig) (hw : w.Discreet)
    {rows : List (Row ρ)} (htabled : kind.Tabled rows specs) {environment : String → Option String}
    {words words' : List String} {options options' : Layered ρ}
    (hread : readOptions (layeredOptions specs) environment ⟨.none, kind.none⟩ words = .ok options)
    (hread' :
      readOptions (layeredOptions specs) environment ⟨.none, kind.none⟩ words' = .ok options')
    (hgiven : (given (layeredOptions specs) words).map redactedGiven =
      (given (layeredOptions specs) words').map redactedGiven)
    (hfile : ∀ p, options.config = some p → redactedFile (files p) = redactedFile (files' p)) :
    ((kind.load files options.config options.options).map hideConfig).mapError (Error.seen w) =
      ((kind.load files' options'.config options'.options).map hideConfig).mapError
        (Error.seen w) := by
  have hspecs : ∀ o ∈ layeredOptions specs,
      o.Redacts fun l : Layered ρ => { l with options := hide l.options } := by
    refine List.forall_mem_cons.mpr ⟨.orVariable ?_ _, List.forall_mem_map.mpr fun o ho => ?_⟩
    · exact .choice (by decide) fun _ _ => rfl
    · exact (h.options o ho).within (fun _ => rfl) fun _ _ => rfl
  have hn : ((layeredOptions specs).map (·.long)).Nodup :=
    Rows.map_long htabled.layeredRows_take ▸ htabled.layeredRows_lawful.nodup_names
  obtain ⟨hconfig, htop⟩ := Layered.mk.inj (options_redacted hspecs hn hread hread' hgiven)
  rw [← hconfig]
  exact h.load_eq hw hfile htop

end Kind.Redacts

end Layer

end DaprHosting
