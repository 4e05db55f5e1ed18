import DaprHosting.OrderedMap
import DaprHosting.Toml.Reader

/-!
# The names of a document

Whatever a line of a document does, it writes to one name of the outermost table: a name that is
there is written over, and no name is there twice. So the entries of a document have distinct names
(`nodup_names_of_read?`), and a look-up finds the only entry of its name.
-/

namespace DaprHosting.Toml

/-! ## 1. Changes of a table -/

/-- No name is there twice. -/
def Distinct (ms : Members) : Prop := (ms.map Prod.fst).Nodup

/-- A change that leaves the names distinct. -/
def KeepsNames (change : Members → Option Members) : Prop :=
  ∀ ms ms', change ms = some ms' → Distinct ms → Distinct ms'

theorem put_eq (name : String) (node : Node) (ms : Members) :
    put name node ms = putEntry name node ms := by
  induction ms with
  | nil => rfl
  | cons m ms ih =>
    obtain ⟨k, n⟩ := m
    rw [put, putEntry, ih]

theorem Distinct.put {ms : Members} (h : Distinct ms) (name : String) (node : Node) :
    Distinct (put name node ms) := by
  rw [put_eq]
  exact nodup_putEntry name node h

theorem distinct_of_map_put {α : Type} {name : String} {node : α → Node} {x : Option α}
    {ms ms' : Members}
    (h : (x.map fun a => put name (node a) ms) = some ms') (hms : Distinct ms) : Distinct ms' := by
  obtain ⟨a, -, rfl⟩ := Option.map_eq_some_iff.mp h
  exact hms.put _ _

theorem keepsNames_assign (key : List String) (v : Toml) : KeepsNames (assign key v) := by
  intro ms ms' h hms
  unfold assign at h
  split at h
  · cases h
  · split at h
    · cases h
      exact hms.put _ _
    · cases h
  · split at h
    · exact distinct_of_map_put h hms
    · cases h
    · exact distinct_of_map_put h hms
    · cases h

theorem keepsNames_openTable (name : String) : KeepsNames (openTable name) := by
  intro ms ms' h hms
  unfold openTable at h
  split at h
  · cases h
    exact hms.put _ _
  · cases h
    exact hms.put _ _
  · cases h

theorem keepsNames_openElement (name : String) : KeepsNames (openElement name) := by
  intro ms ms' h hms
  unfold openElement at h
  split at h
  · cases h
    exact hms.put _ _
  · cases h
    exact hms.put _ _
  · cases h

/-- Below the outermost table anything may change. -/
theorem keepsNames_within {change : Members → Option Members} (hchange : KeepsNames change)
    (path : List String) : KeepsNames (within change path) := by
  intro ms ms' h hms
  unfold within at h
  split at h
  · exact hchange _ _ h hms
  · split at h
    · exact distinct_of_map_put h hms
    · exact distinct_of_map_put h hms
    · split at h
      · cases h
      · exact distinct_of_map_put h hms
    · cases h

/-! ## 2. Documents -/

theorem distinct_of_open? {d d' : Reading} {path : List String}
    {change : String → Members → Option Members} (hchange : ∀ name, KeepsNames (change name))
    (h : d.open? path change = some d') (hd : Distinct d.members) : Distinct d'.members := by
  simp only [Reading.open?, Option.bind_eq_bind, Option.bind_eq_some_iff] at h
  obtain ⟨last, -, members, hmembers, h⟩ := h
  cases h
  exact keepsNames_within (hchange last) _ _ _ hmembers hd

theorem distinct_of_line? {d d' : Reading} {cs r : List Char} (h : d.line? cs = some (d', r))
    (hd : Distinct d.members) : Distinct d'.members := by
  unfold Reading.line? at h
  split at h
  · simp only [Option.bind_eq_bind, Option.bind_eq_some_iff] at h
    obtain ⟨⟨path, r₁⟩, -, r₂, -, d₁, hopen, h⟩ := h
    cases h
    exact distinct_of_open? keepsNames_openElement hopen hd
  · simp only [Option.bind_eq_bind, Option.bind_eq_some_iff] at h
    obtain ⟨⟨path, r₁⟩, -, r₂, -, d₁, hopen, h⟩ := h
    cases h
    exact distinct_of_open? keepsNames_openTable hopen hd
  · split at h
    · cases h
      exact hd
    · simp only [Option.bind_eq_bind, Option.bind_eq_some_iff] at h
      obtain ⟨⟨key, r₁⟩, -, r₂, -, ⟨v, r₃⟩, -, members, hmembers, h⟩ := h
      cases h
      exact keepsNames_within (keepsNames_assign key v) _ _ _ hmembers hd

theorem distinct_of_lines? {fuel : Nat} {d d' : Reading} {cs : List Char}
    (h : lines? fuel d cs = some d') (hd : Distinct d.members) : Distinct d'.members := by
  induction fuel generalizing d cs with
  | zero =>
    cases h
    exact hd
  | succ fuel ih =>
    rw [lines?] at h
    split at h
    · cases h
      exact hd
    · simp only [Option.bind_eq_bind, Option.bind_eq_some_iff] at h
      obtain ⟨⟨d₁, r⟩, hline, cs₁, -, h⟩ := h
      exact ih h (distinct_of_line? hline hd)

theorem map_fst_membersToToml (ms : Members) :
    (membersToToml ms).map Prod.fst = ms.map Prod.fst := by
  induction ms with
  | nil => rw [membersToToml]; rfl
  | cons m ms ih =>
    obtain ⟨k, n⟩ := m
    rw [membersToToml, List.map_cons, ih]
    rfl

/-- **The entries of a document have distinct names.** -/
theorem nodup_names_of_read? {text : String} {entries : List (String × Toml)}
    (h : read? text = some entries) : (entries.map Prod.fst).Nodup := by
  obtain ⟨d, hlines, rfl⟩ := Option.map_eq_some_iff.mp h
  rw [map_fst_membersToToml]
  exact distinct_of_lines? hlines List.nodup_nil

end DaprHosting.Toml
