import DaprHosting.Proofs.Layer.Tables
import DaprHosting.Proofs.Toml.Names

/-!
# Where the options of a command come from

A command has three sources: its line, its environment, and its configuration file. `Sources.value?`
says what an option that is there once takes from them, and `Sources.settings` what a list takes. By
`Kind.Tabled.holds` the layer of a command that was accepted, laid over that of its file, holds just
that in every row.
-/

namespace DaprHosting

open CommandLine Layer

/-! ## 1. Sources -/

/-- The values on the line and the entries of the file, each under the name of its option, and the
    environment. -/
structure Sources where
  line : List (String × String)
  environment : String → Option String
  file : List (String × Toml)

namespace Sources

/-- The text of an option: that of the line, or else that of its variable. -/
def text? (s : Sources) (name : String) (variableName : Option String) : Option String :=
  ( entry? name s.line).or (variableName.bind s.environment)

/-- The value of an option: that of its text, or else that of the file. -/
def value? {β : Type} (s : Sources) (name : String) (variableName : Option String)
    (ofText : String → Option β) (ofToml : String → Reader β) : Option β :=
  match s.text? name variableName with
  | some text => ofText text
  | none => ( entry? name s.file).bind fun v => (ofToml name v).toOption

/-- No source has the option. -/
def lacks (s : Sources) (name : String) (variableName : Option String) : Bool :=
  (s.text? name variableName).isNone && ( entry? name s.file).isNone

/-- The settings under a name: those of the file and then those of the line. -/
def settings (s : Sources) (name : String) : List Setting :=
  (( entry? name s.file).bind fun v => (Layer.settings name v).toOption).getD [] ++
  (under name s.line).filterMap fun text => (Setting.ofAssignment text).toOption

end Sources

namespace Layer

variable {ρ κ τ β : Type}

/-! ## 2. Rows -/

namespace Row

/-- The texts of a row: all of the line where it may be repeated. -/
def texts (r : Row ρ) (s : Sources) : List String :=
  if r.repeatable then under r.name s.line else (s.text? r.name r.variableName).toList

/-- **What a row holds**: the values of its texts over that of the file. -/
structure Holds (r : Row ρ) (s : Sources) (l : ρ) : Prop where
  sources : ∃ base vs, r.OfFile s.file base ∧ r.Reads (r.texts s) vs ∧
    r.get l = r.lay base (r.pile r.nothing vs)

theorem holds_within {r : Row ρ} {get : τ → ρ} {set : τ → ρ → τ} {s : Sources} {t : τ} :
    (r.within get set).Holds s t ↔ r.Holds s (get t) :=
  ⟨fun ⟨h⟩ => ⟨h⟩, fun ⟨h⟩ => ⟨h⟩⟩

section Single

variable {name : String} {variableName : Option String} {ofText : String → Option β}
  {ofToml : String → Reader β} {get : ρ → Option β} {set : ρ → Option β → ρ} {s : Sources} {l : ρ}

theorem OfFile.single_eq {entries : List (String × Toml)} {base : Option β}
    (h : (single name variableName ofText ofToml get set).OfFile entries base) :
    base = ( entry? name entries).bind (fun v => (ofToml name v).toOption) ∧
      (base = none ↔ entry? name entries = none) := by
  cases hentry : entry? name entries with
  | none =>
    simp only [OfFile, single, hentry] at h
    simp [h]
  | some v =>
    simp only [OfFile, single, hentry] at h
    obtain ⟨b, hread, rfl⟩ := map_eq_ok h
    simp [hread, Except.toOption]

/-- A value that is there once is that of the nearest source. -/
theorem Holds.single_eq (h : (single name variableName ofText ofToml get set).Holds s l) :
    get l = s.value? name variableName ofText ofToml ∧
      (get l = none ↔ s.lacks name variableName = true) := by
  obtain ⟨(base : Option β), (vs : List (Option β)), hbase, htexts, hget⟩ := h.sources
  change get l = Layer.overlay base (vs.foldl Layer.overlay none) at hget
  change (single name variableName ofText ofToml get set).Reads
    (s.text? name variableName).toList vs at htexts
  obtain ⟨hvalue, hnone⟩ := hbase.single_eq
  rw [Sources.value?, Sources.lacks]
  cases htext : s.text? name variableName with
  | some text =>
    rw [htext] at htexts
    cases htexts with
    | cons hv hvs =>
      cases hvs
      obtain ⟨b, hread, rfl⟩ := Option.map_eq_some_iff.mp hv
      have hb : get l = some b := hget
      simp [hb, hread]
  | none =>
    rw [htext] at htexts
    cases htexts
    change get l = base at hget
    rw [hget]
    exact ⟨hvalue, by simp [hnone]⟩

end Single

/-- Values that each text adds to a list come one after the other. -/
theorem pile_many {name : String} {ofText : String → Option β}
    {ofToml : String → Reader (List β)} {get : ρ → List β} {set : ρ → List β → ρ}
    {texts : List String} {vs : List (List β)}
    (h : (many name ofText ofToml get set).Reads texts vs) (base : List β) :
    vs.foldl follow base = base ++ texts.filterMap ofText := by
  induction h generalizing base with
  | nil => exact (List.append_nil base).symm
  | cons hv _ ih =>
    obtain ⟨b, hread, rfl⟩ := Option.map_eq_some_iff.mp hv
    rw [List.foldl_cons, ih, List.filterMap_cons, hread]
    exact List.append_assoc base [b] _

theorem OfFile.many_eq {name : String} {ofText : String → Option β}
    {ofToml : String → Reader (List β)} {get : ρ → List β} {set : ρ → List β → ρ}
    {entries : List (String × Toml)} {base : List β}
    (h : (many name ofText ofToml get set).OfFile entries base) :
    base = (( entry? name entries).bind fun v => (ofToml name v).toOption).getD [] := by
  cases hentry : entry? name entries with
  | none =>
    simp only [OfFile, many, hentry] at h
    exact h
  | some v =>
    simp only [OfFile, many, hentry] at h
    simp [h, Except.toOption]

/-- A list of settings is that of the file and then that of the line. -/
theorem Holds.many_eq {name : String} {get : ρ → List Setting} {set : ρ → List Setting → ρ}
    {s : Sources} {l : ρ}
    (h : (many name (fun v => (Setting.ofAssignment v).toOption) Layer.settings get set).Holds
      s l) :
    get l = s.settings name := by
  obtain ⟨(base : List Setting), (vs : List (List Setting)), hbase, htexts, hget⟩ := h.sources
  change get l = base ++ vs.foldl follow [] at hget
  rw [hget, pile_many htexts, Sources.settings, List.nil_append, hbase.many_eq]
  rfl

end Row

/-! ## 3. Lines -/

namespace Rows

variable {rows : List (Row ρ)} {specs : List (OptionSpec ρ)}

theorem nodup_names (h : Rows rows) : (rows.map Row.name).Nodup :=
  List.pairwise_map.mpr (h.apart.imp fun hrs => hrs.name_ne)

theorem map_long (h : List.Forall₂ Row.Takes rows specs) :
    specs.map (·.long) = rows.map Row.name := by
  induction h with
  | nil => rfl
  | cons ho _ ih => rw [List.map_cons, List.map_cons, ho.long, ih]

/-- **What a line and an environment that are accepted leave in a row.** -/
theorem reads_texts (h : Rows rows) (htakes : List.Forall₂ Row.Takes rows specs)
    (hrepeat : ∀ r ∈ rows, r.repeatable = true → r.variableName = none)
    {environment : String → Option String} {start l : ρ} {words : List String}
    (hread : readOptions specs environment start words = .ok l) (file : List (String × Toml)) :
    ∀ r ∈ rows, ∃ vs, r.Reads (r.texts ⟨given specs words, environment, file⟩) vs ∧
      r.get l = r.pile (r.get start) vs := by
  intro r hr
  have hn : (specs.map (·.long)).Nodup := map_long htakes ▸ h.nodup_names
  obtain ⟨hfold, honce⟩ := readOptions_eq_ok hn hread
  obtain ⟨o, ho, htake⟩ := exists_right_of_forall₂ htakes hr
  obtain ⟨vs, hvs, hget⟩ := h.get_of_storeNamed htakes hr hfold
  refine ⟨vs, ?_, hget⟩
  rw [← htake.long] at hvs
  unfold Row.texts
  cases hrep : r.repeatable with
  | true =>
    have hvariable := htake.variableName.trans (hrepeat r hr hrep)
    rw [under_accepted_line hn ho hvariable] at hvs
    rw [if_pos rfl, ← htake.long]
    exact hvs
  | false =>
    rw [under_accepted_once hn ho (htake.repeatable.trans hrep) honce] at hvs
    rw [if_neg Bool.false_ne_true, ← htake.long, ← htake.variableName]
    exact hvs

end Rows

/-! ## 4. Layers -/

/-- A configuration file that parses, with its entries and its layer; or none at all. -/
inductive Kind.Parses (kind : Kind ρ κ) (files : Files) :
    Option String → List (String × Toml) → ρ → Prop where
  | absent : Parses kind files .none [] kind.none
  | present {path text : String} {entries : List (String × Toml)} {base : ρ}
      (hread : files path = .ok text) (htoml : Toml.read? text = some entries)
      (hlayer : kind.ofEntries entries = .ok base) : Parses kind files (some path) entries base

theorem Kind.Parses.ofFile {kind : Kind ρ κ} {files : Files} {path : Option String}
    {entries : List (String × Toml)} {base : ρ} (h : kind.Parses files path entries base) :
    kind.ofFile files path = .ok base := by
  cases h with
  | absent => rfl
  | present hread htoml hlayer =>
    simp only [Kind.ofFile, Kind.ofText, hread, htoml, hlayer]

/-- The option that names the configuration file. -/
def configRow : Row (Layered ρ) :=
  .single "config" (some "DAPRCTL_CONFIG") path? (fun key v => .error (mismatch key v))
    (·.config) fun l v => { l with config := v }

namespace Kind.Tabled

variable {kind : Kind ρ κ} {rows : List (Row ρ)} {specs : List (OptionSpec ρ)}

/-- The rows of a command, that of its configuration file first. -/
def layeredRows (rows : List (Row ρ)) : List (Row (Layered ρ)) :=
  configRow :: rows.map (.within (·.options) fun l o => { l with options := o })

theorem layeredRows_lawful (h : kind.Tabled rows specs) : Rows (layeredRows rows) := by
  have hrows : Rows (rows.map (.within Layered.options fun l o => { l with options := o })) :=
    h.lawful.within fun _ _ => rfl
  refine ⟨List.forall_mem_cons.mpr ⟨fun _ _ => rfl, hrows.get_set⟩,
    List.pairwise_cons.mpr ⟨?_, hrows.apart⟩⟩
  refine List.forall_mem_map.mpr fun r hr => ⟨?_, fun _ _ => rfl, fun _ _ => rfl⟩
  exact fun e => h.config (List.mem_map.mpr ⟨r, hr, e.symm⟩)

theorem layeredRows_take (h : kind.Tabled rows specs) :
    List.Forall₂ Row.Takes (layeredRows rows) (layeredOptions specs) :=
  .cons (.orVariable (Row.takes_choice fun _ _ => rfl) _) (Row.takes_within h.takes _ _)

theorem ofFile_of_parses (h : kind.Tabled rows specs) {files : Files} {path : Option String}
    {entries : List (String × Toml)} {base : ρ} (hfile : kind.Parses files path entries base) :
    ∀ r ∈ rows, r.OfFile entries (r.get base) := by
  cases hfile with
  | absent => exact fun r hr => h.nothing r hr
  | present hread htoml hlayer => exact h.ofFile (Toml.nodup_names_of_read? htoml) hlayer

/-- **The layer of a command laid over that of its file** holds in every row what the sources
    give. -/
theorem holds (h : kind.Tabled rows specs) {environment : String → Option String}
    {words : List String} {options : Layered ρ} {files : Files} {entries : List (String × Toml)}
    {base : ρ}
    (hread : readOptions (layeredOptions specs) environment ⟨.none, kind.none⟩ words = .ok options)
    (hfile : kind.Parses files options.config entries base) :
    ∀ r ∈ rows, r.Holds ⟨given (layeredOptions specs) words, environment, entries⟩
      (kind.overlay base options.options) := by
  intro r hr
  have hrepeat : ∀ r ∈ layeredRows rows, r.repeatable = true → r.variableName = .none :=
    List.forall_mem_cons.mpr ⟨nofun, List.forall_mem_map.mpr h.unnamed⟩
  obtain ⟨vs, hvs, hget⟩ :=
    h.layeredRows_lawful.reads_texts h.layeredRows_take hrepeat hread entries
      _ (List.mem_cons_of_mem _ (List.mem_map_of_mem hr))
  refine ⟨r.get base, vs, h.ofFile_of_parses hfile r hr, hvs, ?_⟩
  have htop : r.get options.options = r.pile (r.get kind.none) vs := hget
  rw [h.overlay r hr, htop, h.nothing r hr]

/-- **The configuration file** is the one that the line names, or else the environment. -/
theorem config_eq (h : kind.Tabled rows specs) {environment : String → Option String}
    {words : List String} {options : Layered ρ}
    (hread : readOptions (layeredOptions specs) environment ⟨.none, kind.none⟩ words = .ok options)
    (entries : List (String × Toml)) :
    options.config =
      Sources.text? ⟨given (layeredOptions specs) words, environment, entries⟩ "config"
        (some "DAPRCTL_CONFIG") := by
  have hrepeat : ∀ r ∈ layeredRows rows, r.repeatable = true → r.variableName = .none :=
    List.forall_mem_cons.mpr ⟨nofun, List.forall_mem_map.mpr h.unnamed⟩
  obtain ⟨(vs : List (Option String)), hvs, hget⟩ :=
    h.layeredRows_lawful.reads_texts h.layeredRows_take hrepeat hread entries
      configRow (List.mem_cons_self ..)
  change options.config = vs.foldl Layer.overlay .none at hget
  change configRow.Reads (Sources.text? ⟨given (layeredOptions specs) words, environment, entries⟩
    "config" (some "DAPRCTL_CONFIG")).toList vs at hvs
  rw [hget]
  cases htext : Sources.text? ⟨given (layeredOptions specs) words, environment, entries⟩ "config"
      (some "DAPRCTL_CONFIG") with
  | none =>
    rw [htext] at hvs
    cases hvs
    rfl
  | some text =>
    rw [htext] at hvs
    cases hvs with
    | cons hv hrest =>
      cases hrest
      obtain ⟨path, hpath, rfl⟩ := Option.map_eq_some_iff.mp hv
      unfold path? at hpath
      split at hpath
      · cases hpath
      · exact hpath.symm

end Kind.Tabled

end Layer

end DaprHosting
