import DaprHosting.CommandLine.Grammar
import DaprHosting.OrderedMap
import DaprHosting.Proofs.Results

/-!
# What a command line gives

Options are read word by word, with a value that may still be to come. What a line that is accepted
comes to is simpler: `given` lists its values, each under the name of its option, and
`readOptions_eq_ok` says that the options are those values stored one after the other, followed by
those of the environment for the options that the line leaves out. Nothing that reads further has to
look at words again.
-/

namespace DaprHosting

namespace CommandLine

variable {ρ : Type} {specs : List (OptionSpec ρ)}

/-! ## 1. Values under names -/

/-- The option that a word begins, with the value attached to it. -/
def Word.option? (specs : List (OptionSpec ρ)) : Word → Option (OptionSpec ρ × Option String)
  | .long name value =>
    (specs.find? fun o => o.long.toList == name).map fun o => (o, value.map String.ofList)
  | .short c rest => (specs.find? fun o => o.short == some c).map fun o => (o, attached rest)
  | _ => none

/-- The values that a line gives, each under the name of its option: the value attached to it, or
    else the next word. -/
def given (specs : List (OptionSpec ρ)) : List String → List (String × String)
  | [] => []
  | w :: ws =>
    match (Word.of w).option? specs, ws with
    | some (o, some value), ws => (o.long, value) :: given specs ws
    | some (o, none), v :: ws => (o.long, v) :: given specs ws
    | some (_, none), [] => []
    | none, ws => given specs ws

/-- The values of the environment, under the names of the options that the line leaves out. -/
def surrounding (environment : String → Option String) (left : List String) :
    List (OptionSpec ρ) → List (String × String)
  | [] => []
  | o :: os =>
    match left.contains o.long, o.variableName.bind environment with
    | false, some value => (o.long, value) :: surrounding environment left os
    | _, _ => surrounding environment left os

/-- A value stored under a name; there is nothing to store under an unknown one. -/
def storeNamed (specs : List (OptionSpec ρ)) (l : ρ) (e : String × String) : Except Refusal ρ :=
  match specs.find? fun o => o.long == e.1 with
  | some o => o.store e.2 l
  | none => .ok l

/-- A value taken under a name. -/
def takeNamed (specs : List (OptionSpec ρ)) (r : Reading ρ) (e : String × String) :
    Except Refusal (Reading ρ) :=
  match specs.find? fun o => o.long == e.1 with
  | some o => r.take o e.2
  | none => .ok r

/-! ## 2. Names of options -/

/-- Under distinct names an option is found by its own. -/
theorem find?_long (hn : (specs.map (·.long)).Nodup) {o : OptionSpec ρ} (ho : o ∈ specs) :
    specs.find? (fun p => p.long == o.long) = some o := by
  induction specs with
  | nil => cases ho
  | cons p ps ih =>
    obtain ⟨hp, hn⟩ := List.nodup_cons.mp hn
    rcases List.mem_cons.mp ho with rfl | ho
    · exact List.find?_cons_of_pos (beq_self_eq_true _)
    · have hne : p.long ≠ o.long := fun e => hp (List.mem_map.mpr ⟨o, ho, e.symm⟩)
      rw [List.find?_cons, beq_eq_false_iff_ne.mpr hne]
      exact ih hn ho

/-- Options with the same name are the same. -/
theorem eq_of_long (hn : (specs.map (·.long)).Nodup) {o p : OptionSpec ρ} (ho : o ∈ specs)
    (hp : p ∈ specs) (h : o.long = p.long) : o = p := by
  have hfind := find?_long hn ho
  rw [h, find?_long hn hp] at hfind
  exact (Option.some.inj hfind).symm

theorem mem_of_option? {w : Word} {o : OptionSpec ρ} {value : Option String}
    (h : w.option? specs = some (o, value)) : o ∈ specs := by
  unfold Word.option? at h
  split at h
  · obtain ⟨p, hp, he⟩ := Option.map_eq_some_iff.mp h
    cases he
    exact List.mem_of_find?_eq_some hp
  · obtain ⟨p, hp, he⟩ := Option.map_eq_some_iff.mp h
    cases he
    exact List.mem_of_find?_eq_some hp
  · cases h

theorem takeNamed_of_mem (hn : (specs.map (·.long)).Nodup) {o : OptionSpec ρ} (ho : o ∈ specs)
    (r : Reading ρ) (value : String) : takeNamed specs r (o.long, value) = r.take o value := by
  simp only [takeNamed, find?_long hn ho]

theorem storeNamed_of_mem (hn : (specs.map (·.long)).Nodup) {o : OptionSpec ρ} (ho : o ∈ specs)
    (l : ρ) (value : String) : storeNamed specs l (o.long, value) = o.store value l := by
  simp only [storeNamed, find?_long hn ho]

/-! ## 3. Words -/

theorem step_of_option? {r : Reading ρ} {w : String} {o : OptionSpec ρ} {value : Option String}
    (h : (Word.of w).option? specs = some (o, value)) :
    r.step specs w = r.begin o value ∧ Word.of w ≠ .divider := by
  unfold Word.option? at h
  unfold Reading.step
  split at h
  · rename_i hw
    obtain ⟨p, hp, he⟩ := Option.map_eq_some_iff.mp h
    cases he
    rw [hw]
    exact ⟨by simp only [hp], nofun⟩
  · rename_i hw
    obtain ⟨p, hp, he⟩ := Option.map_eq_some_iff.mp h
    cases he
    rw [hw]
    exact ⟨by simp only [hp], nofun⟩
  · cases h

/-- A flag stops the reading, whatever is pending. -/
theorem stop_ne_ok {r r' : Reading ρ} {refusal : Refusal} : r.stop refusal ≠ .ok r' := by
  unfold Reading.stop
  cases r.settle <;> exact nofun

/-- A word that begins no option is read only as the value of the option before it. -/
theorem step_of_no_option {r r' : Reading ρ} {w : String}
    (h : (Word.of w).option? specs = none) (hw : Word.of w ≠ .divider)
    (hr : r.step specs w = .ok r') : r.word w = .ok r' := by
  unfold Word.option? at h
  unfold Reading.step at hr
  split at h
  · rename_i name value hword
    rw [Option.map_eq_none_iff] at h
    simp only [hword, h] at hr
    split at hr
    · split at hr
      · cases hr
      · exact absurd hr stop_ne_ok
    · cases hr
  · rename_i c rest hword
    rw [Option.map_eq_none_iff] at h
    simp only [hword, h] at hr
    split at hr
    · exact absurd hr stop_ne_ok
    · cases hr
  · rename_i hlong hshort
    cases hword : Word.of w with
    | divider => exact absurd hword hw
    | long name value => exact absurd hword (hlong name value)
    | short c rest => exact absurd hword (hshort c rest)
    | plain =>
      rw [hword] at hr
      exact hr

/-! ## 4. Lines -/

variable {r r' : Reading ρ}

theorem settle_of_pending_none (h : r.pending = none) : r.settle = .ok r := by
  simp only [Reading.settle, h]

/-- A value that is taken is stored, and its name is remembered. -/
theorem take_eq_ok {o : OptionSpec ρ} {value : String} (h : r.take o value = .ok r') :
    o.store value r.options = .ok r'.options ∧ r'.given = o.long :: r.given ∧
      r'.pending = r.pending ∧ (o.repeatable = false → o.long ∉ r.given) := by
  unfold Reading.take at h
  split at h
  · cases h
  · rename_i hnew
    obtain ⟨l, hstore, rfl⟩ := map_eq_ok h
    refine ⟨hstore, rfl, rfl, fun ho hmem => hnew ?_⟩
    rw [ho, List.contains_iff_mem.mpr hmem]
    rfl

theorem pending_of_take {o : OptionSpec ρ} {value : String} (h : r.take o value = .ok r') :
    r'.pending = r.pending := by
  obtain ⟨-, -, hpending, -⟩ := take_eq_ok h
  exact hpending

theorem pending_of_settle (h : r.settle = .ok r') : r'.pending = none := by
  unfold Reading.settle at h
  split at h
  · rename_i hp
    cases h
    exact hp
  · cases h
  · exact pending_of_take h

theorem begin_eq_ok {o : OptionSpec ρ} {value : Option String} (h : r.begin o value = .ok r') :
    ∃ r₁, r.settle = .ok r₁ ∧ r₁.begin o value = .ok r' := by
  cases hs : r.settle with
  | error e =>
    simp only [Reading.begin, hs] at h
    cases h
  | ok r₁ =>
    have hs₁ := settle_of_pending_none (pending_of_settle hs)
    refine ⟨r₁, rfl, ?_⟩
    simp only [Reading.begin, hs, hs₁] at h ⊢
    exact h

/-- A value that is still to be taken is taken before anything else is read. -/
theorem settle_of_line {ws : List String} (hp : ∀ o, r.pending ≠ some (o, none))
    (h : r.line specs ws = .ok r') : ∃ r₁, r.settle = .ok r₁ ∧ r₁.line specs ws = .ok r' := by
  cases ws with
  | nil => exact ⟨r', h, settle_of_pending_none (pending_of_settle h)⟩
  | cons w ws =>
    rw [Reading.line] at h
    split at h
    · rename_i hw
      split at h
      · rename_i hws
        refine ⟨r', h, ?_⟩
        rw [Reading.line, if_pos hw, if_pos hws]
        exact settle_of_pending_none (pending_of_settle h)
      · cases h
    · rename_i hw
      split at h
      · rename_i r₂ hstep
        cases ho : (Word.of w).option? specs with
        | some ov =>
          obtain ⟨o, value⟩ := ov
          rw [(step_of_option? ho).1] at hstep
          obtain ⟨r₁, hs, hb⟩ := begin_eq_ok hstep
          refine ⟨r₁, hs, ?_⟩
          rw [Reading.line, if_neg hw, (step_of_option? ho).1, hb]
          exact h
        | none =>
          have hword := step_of_no_option ho hw hstep
          unfold Reading.word at hword
          split at hword
          · rename_i o hpend
            exact absurd hpend (hp o)
          · cases hword
      · cases h

/-- The word that begins an option stores the value attached to it, or leaves it to come. -/
theorem line_cons_of_option? {w : String} {ws : List String} {o : OptionSpec ρ}
    {value : Option String} (ho : (Word.of w).option? specs = some (o, value))
    (hp : r.pending = none) (h : r.line specs (w :: ws) = .ok r') :
    ∃ r₁, r₁.line specs ws = .ok r' ∧
      match value with
      | some value => r.take o value = .ok r₁
      | none => r₁ = { r with pending := some (o, none) } := by
  obtain ⟨hstep, hw⟩ := step_of_option? (r := r) ho
  rw [Reading.line, if_neg hw, hstep] at h
  cases hb : r.begin o value with
  | error e =>
    rw [hb] at h
    cases h
  | ok r₁ =>
    rw [hb] at h
    refine ⟨r₁, h, ?_⟩
    simp only [Reading.begin, settle_of_pending_none hp] at hb
    cases value with
    | some value => exact hb
    | none =>
      cases hb
      rfl

/-- A value that is still to come is the next word, which begins no option. -/
theorem line_of_pending {o : OptionSpec ρ} {v : String} {ws : List String}
    (hp : r.pending = some (o, none)) (h : r.line specs (v :: ws) = .ok r') :
    ({ r with pending := some (o, some v) } : Reading ρ).line specs ws = .ok r' := by
  have hsettle : r.settle = .error .invalidValue := by simp only [Reading.settle, hp]
  rw [Reading.line] at h
  split at h
  · rw [hsettle] at h
    split at h <;> cases h
  · rename_i hw
    split at h
    · rename_i r₁ hstep
      cases ho : (Word.of v).option? specs with
      | some ov =>
        rw [(step_of_option? ho).1, Reading.begin, hsettle] at hstep
        cases hstep
      | none =>
        have hword := step_of_no_option ho hw hstep
        simp only [Reading.word, hp] at hword
        cases hword
        exact h
    · cases h

/-- **A line takes the values it gives, one after the other.** -/
theorem takeNamed_of_line (hn : (specs.map (·.long)).Nodup) {words : List String}
    (hp : r.pending = none) (h : r.line specs words = .ok r') :
    (given specs words).foldlM (takeNamed specs) r = .ok r' := by
  fun_induction given specs words generalizing r with
  | case1 =>
    rw [Reading.line, settle_of_pending_none hp] at h
    exact h
  | case2 w o value ws ho ih =>
    obtain ⟨r₁, hline, htake⟩ := line_cons_of_option? ho hp h
    rw [List.foldlM_cons, takeNamed_of_mem hn (mem_of_option? ho), htake]
    exact ih ((pending_of_take htake).trans hp) hline
  | case3 w o v ws ho ih =>
    obtain ⟨r₁, hline, rfl⟩ := line_cons_of_option? ho hp h
    obtain ⟨r₂, hsettle, hline⟩ := settle_of_line (by simp) (line_of_pending rfl hline)
    have htake : r.take o v = .ok r₂ := by
      obtain ⟨options, given, pending⟩ := r
      cases hp
      exact hsettle
    rw [List.foldlM_cons, takeNamed_of_mem hn (mem_of_option? ho), htake]
    exact ih ((pending_of_take htake).trans hp) hline
  | case4 w o ho =>
    obtain ⟨r₁, hline, rfl⟩ := line_cons_of_option? ho hp h
    cases hline
  | case5 w ws ho ih =>
    rw [Reading.line] at h
    split at h
    · split at h
      · rename_i hws
        obtain rfl := List.isEmpty_iff.mp hws
        rw [settle_of_pending_none hp] at h
        exact h
      · cases h
    · rename_i hw
      split at h
      · rename_i hstep
        have hword := step_of_no_option ho hw hstep
        simp only [Reading.word, hp] at hword
        cases hword
      · cases h

/-! ## 5. Options stored -/

/-- Each option that may stand once is among the names at most once. -/
def Once (specs : List (OptionSpec ρ)) (names : List String) : Prop :=
  ∀ o ∈ specs, o.repeatable = false → names.count o.long ≤ 1

theorem once_of_take (hn : (specs.map (·.long)).Nodup) {o : OptionSpec ρ} (ho : o ∈ specs)
    {value : String} (hr : Once specs r.given) (h : r.take o value = .ok r') :
    Once specs r'.given := by
  intro p hp hrepeat
  obtain ⟨-, hgiven, -, hnew⟩ := take_eq_ok h
  rw [hgiven]
  by_cases hlong : o.long = p.long
  · obtain rfl := eq_of_long hn ho hp hlong
    have hzero : r.given.count o.long = 0 := List.count_eq_zero.mpr (hnew hrepeat)
    rw [List.count_cons_self]
    omega
  · rw [List.count_cons_of_ne hlong]
    exact hr p hp hrepeat

/-- Values taken one after the other are stored one after the other. -/
theorem of_takeNamed (hn : (specs.map (·.long)).Nodup) {es : List (String × String)}
    (hes : ∀ e ∈ es, e.1 ∈ specs.map (·.long)) (hr : Once specs r.given)
    (h : es.foldlM (takeNamed specs) r = .ok r') :
    es.foldlM (storeNamed specs) r.options = .ok r'.options ∧
      r'.given = (es.map Prod.fst).reverse ++ r.given ∧ Once specs r'.given := by
  induction es generalizing r with
  | nil =>
    cases h
    exact ⟨rfl, rfl, hr⟩
  | cons e es ih =>
    obtain ⟨o, ho, hlong⟩ := List.mem_map.mp (hes e (List.mem_cons_self ..))
    obtain ⟨name, value⟩ := e
    cases hlong
    rw [List.foldlM_cons, takeNamed_of_mem hn ho] at h
    obtain ⟨r₁, htake, h⟩ := bind_eq_ok h
    obtain ⟨hstore, hgiven, -, -⟩ := take_eq_ok htake
    obtain ⟨hfold, hnames, honce⟩ :=
      ih (fun e he => hes e (List.mem_cons_of_mem _ he)) (once_of_take hn ho hr htake) h
    refine ⟨?_, ?_, honce⟩
    · rw [List.foldlM_cons, storeNamed_of_mem hn ho, hstore]
      exact hfold
    · rw [hnames, hgiven, List.map_cons, List.reverse_cons, List.append_assoc]
      rfl

/-- The environment's values are stored like those of the line. -/
theorem storeNamed_of_fill (hn : (specs.map (·.long)).Nodup)
    {environment : String → Option String} {os : List (OptionSpec ρ)} (hos : os ⊆ specs) {l : ρ}
    (h : r.fill environment os = .ok l) :
    (surrounding environment r.given os).foldlM (storeNamed specs) r.options = .ok l := by
  induction os generalizing r with
  | nil => exact h
  | cons o os ih =>
    obtain ⟨ho, hos⟩ := List.cons_subset.mp hos
    cases hgiven : r.given.contains o.long with
    | true =>
      simp only [Reading.fill, hgiven] at h
      simp only [surrounding, hgiven]
      exact ih hos h
    | false =>
      cases hvalue : o.variableName.bind environment with
      | none =>
        simp only [Reading.fill, hgiven, hvalue] at h
        simp only [surrounding, hgiven, hvalue]
        exact ih hos h
      | some value =>
        simp only [Reading.fill, hgiven, hvalue] at h
        simp only [surrounding, hgiven, hvalue]
        cases hstore : o.store value r.options with
        | error e =>
          rw [hstore] at h
          cases h
        | ok options =>
          rw [hstore] at h
          rw [List.foldlM_cons, storeNamed_of_mem hn ho, hstore]
          exact ih hos h

theorem mem_given {words : List String} {e : String × String} (h : e ∈ given specs words) :
    e.1 ∈ specs.map (·.long) := by
  fun_induction given specs words with
  | case1 => cases h
  | case2 w o value ws ho ih =>
    rcases List.mem_cons.mp h with rfl | h
    · exact List.mem_map_of_mem (mem_of_option? ho)
    · exact ih h
  | case3 w o v ws ho ih =>
    rcases List.mem_cons.mp h with rfl | h
    · exact List.mem_map_of_mem (mem_of_option? ho)
    · exact ih h
  | case4 w o ho => cases h
  | case5 w ws ho ih => exact ih h

theorem surrounding_congr {environment : String → Option String} {left left' : List String}
    (h : ∀ name, left.contains name = left'.contains name) (os : List (OptionSpec ρ)) :
    surrounding environment left os = surrounding environment left' os := by
  induction os with
  | nil => rfl
  | cons o os ih => simp only [surrounding, h, ih]

/-- The values of options that are accepted: those of the line, and those of the environment for
    the options that the line leaves out. -/
def accepted (specs : List (OptionSpec ρ)) (environment : String → Option String)
    (words : List String) : List (String × String) :=
  given specs words ++ surrounding environment ((given specs words).map Prod.fst) specs

/-- **Options that are accepted** are their values stored one after the other, none given twice
    that may stand once. -/
theorem readOptions_eq_ok (hn : (specs.map (·.long)).Nodup)
    {environment : String → Option String} {start l : ρ} {words : List String}
    (h : readOptions specs environment start words = .ok l) :
    (accepted specs environment words).foldlM (storeNamed specs) start = .ok l ∧
      Once specs ((given specs words).map Prod.fst) := by
  unfold readOptions at h
  split at h
  · rename_i r hline
    have htake := takeNamed_of_line hn rfl hline
    have hnone : Once specs ({ options := start } : Reading ρ).given := fun o _ _ => by simp
    obtain ⟨hfold, hgiven, honce⟩ := of_takeNamed hn (fun e he => mem_given he) hnone htake
    rw [List.append_nil] at hgiven
    have hfill := storeNamed_of_fill hn (List.Subset.refl specs) h
    rw [hgiven, surrounding_congr fun name => List.contains_reverse] at hfill
    refine ⟨?_, fun o ho hrepeat => ?_⟩
    · rw [accepted, List.foldlM_append, hfold]
      exact hfill
    · have hcount := honce o ho hrepeat
      rwa [hgiven, List.count_reverse] at hcount
  · cases h

/-! ## 6. The texts of an option -/

/-- The texts under a name. -/
def under (name : String) (es : List (String × String)) : List String :=
  (es.filter (·.1 = name)).map Prod.snd

theorem under_append (name : String) (es es' : List (String × String)) :
    under name (es ++ es') = under name es ++ under name es' := by
  rw [under, List.filter_append, List.map_append]
  rfl

theorem under_cons_self (name text : String) (es : List (String × String)) :
    under name ((name, text) :: es) = text :: under name es := by
  rw [under, List.filter_cons_of_pos (by simp)]
  rfl

theorem under_cons_of_ne {name other : String} (h : other ≠ name) (text : String)
    (es : List (String × String)) : under name ((other, text) :: es) = under name es := by
  rw [under, List.filter_cons_of_neg (by simpa using h)]
  rfl

theorem length_under (name : String) (es : List (String × String)) :
    (under name es).length = (es.map Prod.fst).count name := by
  induction es with
  | nil => rfl
  | cons e es ih =>
    obtain ⟨k, v⟩ := e
    by_cases hk : k = name
    · subst hk
      rw [under_cons_self, List.length_cons, ih, List.map_cons, List.count_cons_self]
    · rw [under_cons_of_ne hk, ih, List.map_cons, List.count_cons_of_ne hk]

theorem head?_under (name : String) (es : List (String × String)) :
    (under name es).head? = entry? name es := by
  induction es with
  | nil => rfl
  | cons e es ih =>
    obtain ⟨k, v⟩ := e
    by_cases hk : k = name
    · subst hk
      rw [under_cons_self, entry?, if_pos rfl]
      rfl
    · rw [under_cons_of_ne hk, ih, entry?, if_neg hk]

theorem mem_of_mem_surrounding {environment : String → Option String} {left : List String}
    {os : List (OptionSpec ρ)} {name : String}
    (h : name ∈ (surrounding environment left os).map Prod.fst) : name ∈ os.map (·.long) := by
  induction os with
  | nil => exact h
  | cons o os ih =>
    rw [surrounding] at h
    split at h
    · rcases List.mem_cons.mp h with rfl | h
      · exact List.mem_cons_self ..
      · exact List.mem_cons_of_mem _ (ih h)
    · exact List.mem_cons_of_mem _ (ih h)

theorem under_of_notMem {name : String} {es : List (String × String)}
    (h : name ∉ es.map Prod.fst) : under name es = [] := by
  rw [← List.length_eq_zero_iff, length_under, List.count_eq_zero.mpr h]

/-- The environment gives an option that is left out the value of its variable. -/
theorem under_surrounding (hn : (specs.map (·.long)).Nodup) {o : OptionSpec ρ} (ho : o ∈ specs)
    (environment : String → Option String) (left : List String) :
    under o.long (surrounding environment left specs) =
      if o.long ∈ left then [] else (o.variableName.bind environment).toList := by
  induction specs with
  | nil => cases ho
  | cons p ps ih =>
    obtain ⟨hp, hn⟩ := List.nodup_cons.mp hn
    rw [surrounding]
    rcases List.mem_cons.mp ho with rfl | ho
    · have hrest : under o.long (surrounding environment left ps) = [] :=
        under_of_notMem fun h => hp (mem_of_mem_surrounding h)
      split
      · rename_i value hleft hvalue
        have hmem : o.long ∉ left := fun h => by
          rw [List.contains_iff_mem.mpr h] at hleft
          cases hleft
        rw [under_cons_self, hrest, if_neg hmem, hvalue]
        rfl
      · rename_i hother
        rw [hrest]
        split
        · rfl
        · rename_i hmem
          cases hvalue : o.variableName.bind environment with
          | none => rfl
          | some value =>
            exact absurd hvalue
              (hother value (Bool.eq_false_iff.mpr (mt List.contains_iff_mem.mp hmem)))
    · have hne : p.long ≠ o.long := fun h => hp (List.mem_map.mpr ⟨o, ho, h.symm⟩)
      split
      · rw [under_cons_of_ne hne]
        exact ih hn ho
      · exact ih hn ho

/-- **An option that may stand once** has the value of the line, or else that of its variable. -/
theorem under_accepted_once (hn : (specs.map (·.long)).Nodup) {o : OptionSpec ρ} (ho : o ∈ specs)
    (hrepeat : o.repeatable = false) {environment : String → Option String}
    {words : List String} (honce : Once specs ((given specs words).map Prod.fst)) :
    under o.long (accepted specs environment words) =
      (( entry? o.long (given specs words)).or (o.variableName.bind environment)).toList := by
  have hlength := length_under o.long (given specs words) ▸ honce o ho hrepeat
  rw [accepted, under_append, under_surrounding hn ho, ← head?_under]
  by_cases hmem : o.long ∈ (given specs words).map Prod.fst
  · rw [if_pos hmem, List.append_nil]
    have hpos := List.count_pos_iff.mpr hmem
    rw [← length_under] at hpos
    match hunder : under o.long (given specs words) with
    | [] => simp [hunder] at hpos
    | [v] => rfl
    | v :: w :: vs => simp [hunder] at hlength
  · rw [if_neg hmem, under_of_notMem hmem]
    rfl

/-- An option that no variable gives has the values of the line. -/
theorem under_accepted_line (hn : (specs.map (·.long)).Nodup) {o : OptionSpec ρ} (ho : o ∈ specs)
    (hvariable : o.variableName = none) (environment : String → Option String)
    (words : List String) :
    under o.long (accepted specs environment words) = under o.long (given specs words) := by
  rw [accepted, under_append, under_surrounding hn ho, hvariable, Option.bind_none]
  split <;> exact List.append_nil _

end CommandLine

end DaprHosting
