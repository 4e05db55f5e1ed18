import Mathlib.Data.List.Pairwise
import DaprHosting.CommandLine.Options
import DaprHosting.Proofs.CommandLine.Given
import DaprHosting.Proofs.Lists
import DaprHosting.Proofs.OrderedMap.Entries

/-!
# Options as rows of a table

An option of a layer is read from texts, read from a file, and laid over another layer's. A `Row` is
what options have in common: a value of the layer, nothing of it, and one value over another. A
value that is there once goes over any value before it; a list follows the list before it.

The rows of a layer stand apart from each other (`Rows`) and are listed beside the options of its
command (`Row.Takes`) and of its file (`Row.InFile`). So what a layer holds when it was read is one
theorem for texts, `Rows.get_of_storeNamed`, and one for files, `Rows.ofFile_of_storeAll`, whatever
the option.
-/

namespace DaprHosting.Layer

open CommandLine

variable {ρ τ β : Type}

/-! ## 1. Rows -/

/-- A value of a layer `ρ`: how it is named, read, and laid over another. -/
structure Row (ρ : Type) where
  name : String
  variableName : Option String
  repeatable : Bool
  Value : Type
  nothing : Value
  lay : Value → Value → Value
  ofText : String → Option Value
  ofToml : Reader Value
  get : ρ → Value
  set : ρ → Value → ρ

namespace Row

/-- A value that is there once, if at all. -/
def single (name : String) (variableName : Option String) (ofText : String → Option β)
    (ofToml : String → Reader β) (get : ρ → Option β) (set : ρ → Option β → ρ) : Row ρ where
  name := name
  variableName := variableName
  repeatable := false
  Value := Option β
  nothing := none
  lay := Layer.overlay
  ofText text := (ofText text).map some
  ofToml v := (ofToml name v).map some
  get := get
  set := set

/-- A list of values, of which each text adds one. -/
def many (name : String) (ofText : String → Option β) (ofToml : String → Reader (List β))
    (get : ρ → List β) (set : ρ → List β → ρ) : Row ρ where
  name := name
  variableName := none
  repeatable := true
  Value := List β
  nothing := []
  lay := follow
  ofText text := (ofText text).map fun b => [b]
  ofToml := ofToml name
  get := get
  set := set

/-- The same value of a larger layer. -/
def within (get : τ → ρ) (set : τ → ρ → τ) (r : Row ρ) : Row τ where
  name := r.name
  variableName := r.variableName
  repeatable := r.repeatable
  Value := r.Value
  nothing := r.nothing
  lay := r.lay
  ofText := r.ofText
  ofToml := r.ofToml
  get t := r.get (get t)
  set t v := set t (r.set (get t) v)

/-- Values laid one over the other, the last on top. -/
def pile (r : Row ρ) (base : r.Value) (vs : List r.Value) : r.Value := vs.foldl r.lay base

/-- Texts and the values that they are read as. -/
abbrev Reads (r : Row ρ) : List String → List r.Value → Prop :=
  List.Forall₂ fun text v => r.ofText text = some v

/-- Neither of two rows sees what is set in the other. -/
structure Apart (r s : Row ρ) : Prop where
  name_ne : r.name ≠ s.name
  get_set : ∀ l v, r.get (s.set l v) = r.get l
  get_set' : ∀ l v, s.get (r.set l v) = s.get l

theorem Apart.symm {r s : Row ρ} (h : Apart r s) : Apart s r :=
  ⟨h.name_ne.symm, h.get_set', h.get_set⟩

/-- An option of the command line stores the value of the row. -/
structure Takes (r : Row ρ) (o : OptionSpec ρ) : Prop where
  long : o.long = r.name
  variableName : o.variableName = r.variableName
  repeatable : o.repeatable = r.repeatable
  store : ∀ {text l l'}, o.store text l = .ok l' →
    ∃ v, r.ofText text = some v ∧ l' = r.set l (r.lay (r.get l) v)

/-- An option of the file stores the value of the row. -/
structure InFile (r : Row ρ) (f : FileOption ρ) : Prop where
  key : f.key = r.name
  store : ∀ {v l l'}, f.store l v = .ok l' → ∃ a, r.ofToml v = .ok a ∧ l' = r.set l a

/-- The value that the entries of a file give, or nothing. -/
def OfFile (r : Row ρ) (entries : List (String × Toml)) (value : r.Value) : Prop :=
  match entry? r.name entries with
  | some v => r.ofToml v = .ok value
  | none => value = r.nothing

end Row

/-- Rows that read back what is set in them and stand apart from each other. -/
structure Rows (rows : List (Row ρ)) : Prop where
  get_set : ∀ r ∈ rows, ∀ l v, r.get (r.set l v) = v
  apart : rows.Pairwise Row.Apart

/-! ## 2. Look-ups -/

namespace Rows

variable {rows : List (Row ρ)}

/-- Rows of the same name are the same. -/
theorem apart_of_ne (h : Rows rows) {r s : Row ρ} (hr : r ∈ rows) (hs : s ∈ rows)
    (hne : r ≠ s) : r.Apart s :=
  have : Std.Symm (Row.Apart (ρ := ρ)) := ⟨fun _ _ h => h.symm⟩
  h.apart.forall hr hs hne

/-! ## 3. Texts -/

/-- One text goes over what its row holds, and no other row sees it. -/
theorem get_of_store (h : Rows rows) {r s : Row ρ} (hr : r ∈ rows) (hs : s ∈ rows)
    {o : OptionSpec ρ} (ho : s.Takes o) {text : String} {l l' : ρ}
    (hstore : o.store text l = .ok l') :
    ∃ vs, r.Reads (under r.name [(o.long, text)]) vs ∧ r.get l' = r.pile (r.get l) vs := by
  obtain ⟨v, hv, rfl⟩ := ho.store hstore
  rw [ho.long]
  by_cases hrs : r = s
  · subst hrs
    refine ⟨[v], ?_, h.get_set r hr _ _⟩
    rw [under_cons_self]
    exact .cons hv .nil
  · have hapart := h.apart_of_ne hr hs hrs
    refine ⟨[], ?_, hapart.get_set _ _⟩
    rw [under_cons_of_ne hapart.name_ne.symm]
    exact .nil

theorem get_of_storeNamed_one (h : Rows rows) {specs : List (OptionSpec ρ)}
    (htakes : List.Forall₂ Row.Takes rows specs) {r : Row ρ} (hr : r ∈ rows)
    {e : String × String} {l l' : ρ} (hstore : storeNamed specs l e = .ok l') :
    ∃ vs, r.Reads (under r.name [e]) vs ∧ r.get l' = r.pile (r.get l) vs := by
  obtain ⟨name, text⟩ := e
  unfold storeNamed at hstore
  split at hstore
  · rename_i o hfind
    obtain ⟨s, hs, ho⟩ := exists_left_of_forall₂ htakes (List.mem_of_find?_eq_some hfind)
    have hlong : o.long = name := by simpa only [beq_iff_eq] using List.find?_some hfind
    exact hlong ▸ h.get_of_store hr hs ho hstore
  · rename_i hfind
    cases hstore
    obtain ⟨o, ho, htake⟩ := exists_right_of_forall₂ htakes hr
    have hne : name ≠ r.name := by
      have hno := List.find?_eq_none.mp hfind o ho
      rw [htake.long, beq_iff_eq] at hno
      exact fun e => hno e.symm
    refine ⟨[], ?_, rfl⟩
    rw [under_cons_of_ne hne]
    exact .nil

/-- **What texts leave in a row**: their values, the last on top. -/
theorem get_of_storeNamed (h : Rows rows) {specs : List (OptionSpec ρ)}
    (htakes : List.Forall₂ Row.Takes rows specs) {r : Row ρ} (hr : r ∈ rows)
    {es : List (String × String)} {l l' : ρ} (hfold : es.foldlM (storeNamed specs) l = .ok l') :
    ∃ vs, r.Reads (under r.name es) vs ∧ r.get l' = r.pile (r.get l) vs := by
  induction es generalizing l with
  | nil =>
    cases hfold
    exact ⟨[], .nil, rfl⟩
  | cons e es ih =>
    rw [List.foldlM_cons] at hfold
    obtain ⟨l₁, hstore, hfold⟩ := bind_eq_ok hfold
    obtain ⟨vs, hvs, hget⟩ := h.get_of_storeNamed_one htakes hr hstore
    obtain ⟨ws, hws, hget'⟩ := ih hfold
    refine ⟨vs ++ ws, ?_, ?_⟩
    · rw [← List.singleton_append, under_append]
      exact List.rel_append hvs hws
    · rw [hget', hget, Row.pile, Row.pile, Row.pile, List.foldl_append]

/-! ## 4. Files -/

/-- What one entry leaves in a row: its value, if it is the row's. -/
theorem get_of_storeEntry (h : Rows rows) {fields : List (FileOption ρ)}
    (hfile : List.Forall₂ Row.InFile rows fields) {r : Row ρ} (hr : r ∈ rows)
    {e : String × Toml} {l l' : ρ} (hstore : storeEntry fields l e = .ok l') :
    if e.1 = r.name then r.ofToml e.2 = .ok (r.get l') else r.get l' = r.get l := by
  unfold storeEntry at hstore
  split at hstore
  · rename_i f hfind
    obtain ⟨s, hs, hf⟩ := exists_left_of_forall₂ hfile (List.mem_of_find?_eq_some hfind)
    have hkey : f.key = e.1 := by simpa only [beq_iff_eq] using List.find?_some hfind
    obtain ⟨a, ha, rfl⟩ := hf.store hstore
    rw [← hkey, hf.key]
    by_cases hrs : r = s
    · subst hrs
      rw [if_pos rfl, h.get_set r hr, ha]
    · have hapart := h.apart_of_ne hr hs hrs
      rw [if_neg hapart.name_ne.symm]
      exact hapart.get_set _ _
  · rename_i hfind
    cases hstore
    obtain ⟨f, hf, hin⟩ := exists_right_of_forall₂ hfile hr
    have hne : e.1 ≠ r.name := by
      have hno := List.find?_eq_none.mp hfind f hf
      rw [hin.key, beq_iff_eq] at hno
      exact fun e => hno e.symm
    rw [if_neg hne]

/-- What entries leave in a row: the value of the entry that is the row's, if there is one. -/
theorem get_of_storeAll (h : Rows rows) {fields : List (FileOption ρ)}
    (hfile : List.Forall₂ Row.InFile rows fields) {r : Row ρ} (hr : r ∈ rows)
    {entries : List (String × Toml)} (hn : (entries.map Prod.fst).Nodup) {l l' : ρ}
    (hfold : storeAll fields l entries = .ok l') :
    match entry? r.name entries with
    | some v => r.ofToml v = .ok (r.get l')
    | none => r.get l' = r.get l := by
  induction entries generalizing l with
  | nil =>
    cases hfold
    rfl
  | cons e es ih =>
    obtain ⟨key, v⟩ := e
    obtain ⟨hkey, hn⟩ := List.nodup_cons.mp hn
    rw [storeAll, List.foldlM_cons] at hfold
    obtain ⟨l₁, hstore, hfold⟩ := bind_eq_ok hfold
    have hone := h.get_of_storeEntry hfile hr hstore
    have hrest := ih hn hfold
    by_cases hname : key = r.name
    · have hlater : entry? r.name es = none := entry?_eq_none_iff.mpr (hname ▸ hkey)
      rw [hlater] at hrest
      rw [if_pos hname] at hone
      simp only [ entry?, if_pos hname]
      rw [hrest]
      exact hone
    · rw [if_neg hname] at hone
      simp only [ entry?, if_neg hname]
      rw [hone] at hrest
      exact hrest

/-- A command's own options are read like those of a group, but for numbers that cannot be read. -/
theorem storeAll_of_storeOwn {fields : List (FileOption ρ)} {entries : List (String × Toml)}
    {l l' : ρ} (h : storeOwn fields l entries = .ok l') : storeAll fields l entries = .ok l' := by
  induction entries generalizing l with
  | nil => exact h
  | cons e es ih =>
    rw [storeOwn, List.foldlM_cons] at h
    rw [storeAll, List.foldlM_cons]
    obtain ⟨l₁, hstore, h⟩ := bind_eq_ok h
    split at hstore
    · cases hstore
    · rw [hstore]
      exact ih h

/-- **What a file leaves in rows** that held nothing. -/
theorem ofFile_of_storeAll (h : Rows rows) {fields : List (FileOption ρ)}
    (hfile : List.Forall₂ Row.InFile rows fields) {l : ρ}
    (hnothing : ∀ r ∈ rows, r.get l = r.nothing) {entries : List (String × Toml)}
    (hn : (entries.map Prod.fst).Nodup) {l' : ρ} (hfold : storeAll fields l entries = .ok l') :
    ∀ r ∈ rows, r.OfFile entries (r.get l') := by
  intro r hr
  have hget := h.get_of_storeAll hfile hr hn hfold
  rw [hnothing r hr] at hget
  exact hget

/-- What a file leaves in a command's own rows, once the groups are put beside them. -/
theorem ofFile_of_storeOwn (h : Rows rows) {fields : List (FileOption ρ)}
    (hfile : List.Forall₂ Row.InFile rows fields) {l : ρ}
    (hnothing : ∀ r ∈ rows, r.get l = r.nothing) {entries : List (String × Toml)}
    (hn : (entries.map Prod.fst).Nodup) {own : ρ} (hfold : storeOwn fields l entries = .ok own)
    {l' : ρ} (hget : ∀ r ∈ rows, r.get l' = r.get own) :
    ∀ r ∈ rows, r.OfFile entries (r.get l') := by
  intro r hr
  rw [hget r hr]
  exact h.ofFile_of_storeAll hfile hnothing hn (storeAll_of_storeOwn hfold) r hr

/-! ## 5. Larger layers -/

/-- The rows of a part are rows of the whole. -/
theorem within (h : Rows rows) {get : τ → ρ} {set : τ → ρ → τ} (hget : ∀ t l, get (set t l) = l) :
    Rows (rows.map (Row.within get set)) := by
  refine ⟨?_, ?_⟩
  · intro s hs t v
    obtain ⟨r, hr, rfl⟩ := List.mem_map.mp hs
    exact (congrArg r.get (hget _ _)).trans (h.get_set r hr _ _)
  · refine List.pairwise_map.mpr (h.apart.imp fun hrs => ⟨hrs.name_ne, ?_, ?_⟩)
    · exact fun t v => (congrArg _ (hget _ _)).trans (hrs.get_set _ _)
    · exact fun t v => (congrArg _ (hget _ _)).trans (hrs.get_set' _ _)

/-- Rows that stand apart from others are rows together with them. -/
theorem append {rows' : List (Row ρ)} (h : Rows rows) (h' : Rows rows')
    (hapart : ∀ r ∈ rows, ∀ s ∈ rows', r.Apart s) : Rows (rows ++ rows') := by
  refine ⟨fun r hr => ?_, List.pairwise_append.mpr ⟨h.apart, h'.apart, hapart⟩⟩
  rcases List.mem_append.mp hr with hr | hr
  · exact h.get_set r hr
  · exact h'.get_set r hr

end Rows

namespace Row

theorem Takes.within {r : Row ρ} {o : OptionSpec ρ} (h : r.Takes o) (get : τ → ρ)
    (set : τ → ρ → τ) : (r.within get set).Takes (o.within get set) where
  long := h.long
  variableName := h.variableName
  repeatable := h.repeatable
  store {text t t'} hstore := by
    obtain ⟨l, hs, rfl⟩ := map_eq_ok hstore
    obtain ⟨v, hv, rfl⟩ := h.store hs
    exact ⟨v, hv, rfl⟩

theorem takes_within {rows : List (Row ρ)} {specs : List (OptionSpec ρ)}
    (h : List.Forall₂ Takes rows specs) (get : τ → ρ) (set : τ → ρ → τ) :
    List.Forall₂ Takes (rows.map (.within get set)) (specs.map (.within get set)) := by
  rw [List.forall₂_map_left_iff, List.forall₂_map_right_iff]
  exact h.imp fun _ _ h => h.within get set

end Row

end DaprHosting.Layer
