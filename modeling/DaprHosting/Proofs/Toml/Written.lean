import DaprHosting.Proofs.OrderedMap.Entries
import DaprHosting.Proofs.Toml.Names
import DaprHosting.Proofs.Toml.Tokens

/-!
# Values are read as they were written

A text reads as a value if the reader takes exactly it for the value, whatever stands behind, as
long as this cannot belong to it (`Reads`). Quoted strings, whole numbers and truth values read, and
arrays and inline tables of what reads. `print` writes nothing else, so a value of these kinds,
nested not too deep, is read back from its text: `reads_print`.
-/

namespace DaprHosting.Toml

/-! ## 1. Values -/

/-- The character is no blank, starts no comment and ends no line. -/
def Solid (c : Char) : Prop := isSpace c = false ∧ c ≠ '#' ∧ c ≠ '\n' ∧ c ≠ '\r'

instance (c : Char) : Decidable (Solid c) := inferInstanceAs (Decidable (_ ∧ _))

theorem skipBlanks_solid {c : Char} (h : Solid c) (cs : List Char) :
    skipBlanks (c :: cs) = some (c :: cs) := by
  obtain ⟨hspace, hcomment, hline, hreturn⟩ := h
  have hskip : skipSpaces (c :: cs) = c :: cs := List.dropWhile_cons_of_neg (by simp [hspace])
  have hnone : comment? (c :: cs) = some (c :: cs) := by
    rw [comment?.eq_def]
    split
    · rename_i e
      cases e
      exact absurd rfl hcomment
    · rfl
  have hend : lineEnd? (c :: cs) = none := by
    rw [lineEnd?.eq_def]
    split
    · rename_i e
      cases e
      exact absurd rfl hline
    · rename_i e
      cases e
      exact absurd rfl hreturn
    · rfl
  rw [skipBlanks, List.length_cons, skipLines, hskip, hnone, Option.bind_eq_bind,
    Option.bind_some, hend]

/-- So a key starts with such a character. -/
theorem solid_of_begins {c : Char} (hc : c = '"' ∨ isKeyChar c = true) : Solid c :=
  ⟨isSpace_of_begins hc, ne_of_begins hc (by decide), ne_of_begins hc (by decide),
    ne_of_begins hc (by decide)⟩

/-- **The text reads as the value**, where so many containers may be opened and whatever stands
    behind that cannot belong to it. -/
structure Reads (depth : Nat) (cs : List Char) (v : Toml) : Prop where
  begins : ∃ c r, cs = c :: r ∧ Solid c ∧ c ≠ ']'
  read : ∀ fuel rest, cs.length ≤ fuel → Ends rest →
    value? fuel depth (cs ++ rest) = some (v, rest)

/-- The text before a closing bracket reads as the elements. -/
def ReadsElements (depth : Nat) (cs : List Char) (vs : List Toml) : Prop :=
  ∀ fuel rest, cs.length + 1 ≤ fuel →
    elements? fuel depth (cs ++ ']' :: rest) = some (vs, rest)

/-- The members of a table of values. -/
def ofEntries (es : List (String × Toml)) : Members := es.map fun e => (e.1, .value e.2)

/-- The text before a closing brace reads as the entries, behind members of other names. -/
def ReadsEntries (depth : Nat) (cs : List Char) (es : List (String × Toml)) : Prop :=
  ∀ fuel ms rest, cs.length + 1 ≤ fuel → Distinct (ms ++ ofEntries es) →
    pairs? fuel depth ms (cs ++ '\x7d' :: rest) = some (ms ++ ofEntries es, rest)

theorem membersToToml_eq_map (ms : Members) :
    membersToToml ms = ms.map fun m => (m.1, m.2.toToml) := by
  induction ms with
  | nil => rw [membersToToml, List.map_nil]
  | cons m ms ih => rw [membersToToml, ih, List.map_cons]

theorem membersToToml_ofEntries (es : List (String × Toml)) :
    membersToToml (ofEntries es) = es := by
  have hvalue : (fun m : String × Node => (m.1, m.2.toToml)) ∘
      (fun e : String × Toml => (e.1, Node.value e.2)) = id := by
    funext e
    simp [Node.toToml]
  rw [membersToToml_eq_map, ofEntries, List.map_map, hvalue, List.map_id]

section Combining

variable {depth : Nat} {cs ds : List Char} {v : Toml} {vs : List Toml}

theorem Reads.string (s : String) : Reads depth (quote s) (.string s) where
  begins := ⟨_, _, rfl, by decide, by decide⟩
  read fuel rest hfuel hends := by
    have hlen : 0 < (quote s).length := List.length_pos_iff.mpr (by simp [quote])
    obtain ⟨f, rfl⟩ := Nat.exists_eq_add_of_le' (by omega : 1 ≤ fuel)
    have hread := string?_quote s rest fun h => (hends _ h).2 rfl
    rw [quote_append] at hread ⊢
    rw [value?.eq_def]
    simp only [true_or, if_true, hread, Option.map_some, String.ofList_toList]

theorem ne_of_isBareChar {c d : Char} (hc : isBareChar c = true) (hd : isBareChar d = false) :
    c ≠ d := by
  rintro rfl
  rw [hc] at hd
  cases hd

theorem Reads.bare (hne : cs ≠ []) (hcs : ∀ c ∈ cs, isBareChar c = true) (hdate : date? cs = none)
    (hbare : bare? cs = some v) : Reads depth cs v := by
  obtain ⟨c, r, rfl⟩ := List.exists_cons_of_ne_nil hne
  have hc : ∀ {d}, isBareChar d = false → c ≠ d := ne_of_isBareChar (hcs c (List.mem_cons_self ..))
  constructor
  case begins =>
    have hspace : isSpace c = false := by
      simp [isSpace, hc (d := ' ') (by decide), hc (d := '\t') (by decide)]
    exact ⟨c, r, rfl, ⟨hspace, hc (by decide), hc (by decide), hc (by decide)⟩, hc (by decide)⟩
  case read =>
    intro fuel rest hfuel hends
    obtain ⟨f, rfl⟩ := Nat.exists_eq_add_of_le' (Nat.le_trans (Nat.le_add_left 1 r.length) hfuel)
    have htake := takeBare_append hcs hdate hends
    rw [List.cons_append] at htake ⊢
    have hquote : ¬ (c = '"' ∨ c = '\'') := not_or.mpr ⟨hc (by decide), hc (by decide)⟩
    rw [value?.eq_def]
    simp only [if_neg hquote, if_neg (hc (by decide : isBareChar '[' = false)),
      if_neg (hc (by decide : isBareChar '\x7b' = false)), htake, hbare, Option.map_some]

theorem Reads.boolean (b : Bool) : Reads depth (toString b).toList (.boolean b) := by
  cases b <;> exact .bare (by decide) (List.all_eq_true.mp rfl) (by decide) rfl

theorem Reads.integer {n : Int} (hlow : -(Word.maxSigned64 : Int) - 1 ≤ n)
    (hhigh : n ≤ Word.max64) : Reads depth (toString n).toList (.integer n) := by
  refine .bare ?_ (fun c hc => ?_) (date?_toString n) (bare?_toString hlow hhigh)
  · cases n with
    | ofNat n =>
      rw [Int.ofNat_eq_natCast, toList_toString_ofNat]
      exact Text.decimal_ne_nil n
    | negSucc n =>
      rw [toList_toString_negSucc]
      exact List.cons_ne_nil _ _
  · rcases of_mem_toString hc with rfl | hdigit
    · decide
    · exact isBareChar_of_isDigit hdigit

/-- Blanks in front of a value there are none. -/
theorem Reads.skipBlanks (h : Reads depth cs v) (rest : List Char) :
    Toml.skipBlanks (cs ++ rest) = some (cs ++ rest) := by
  obtain ⟨c, r, rfl, hsolid, -⟩ := h.begins
  exact skipBlanks_solid hsolid _

theorem Reads.skipSpaces (h : Reads depth cs v) (rest : List Char) :
    Toml.skipSpaces (cs ++ rest) = cs ++ rest := by
  obtain ⟨c, r, rfl, ⟨hspace, -⟩, -⟩ := h.begins
  exact List.dropWhile_cons_of_neg (by simp [hspace])

theorem ReadsElements.nil : ReadsElements depth [] [] := by
  intro fuel rest hfuel
  obtain ⟨f, rfl⟩ := Nat.exists_eq_add_of_le' hfuel
  have hclose : Toml.skipBlanks (']' :: rest) = some (']' :: rest) :=
    skipBlanks_solid (by decide) _
  rw [List.nil_append, elements?.eq_def]
  simp only [List.length_nil, hclose]
  rfl

theorem ReadsElements.one (h : Reads depth cs v) : ReadsElements depth cs [v] := by
  intro fuel rest hfuel
  obtain ⟨f, rfl⟩ := Nat.exists_eq_add_of_le' (by omega : 1 ≤ fuel)
  have hvalue := h.read f (']' :: rest) (by omega) (ends_cons (by decide) _)
  have hclose : Toml.skipBlanks (']' :: rest) = some (']' :: rest) :=
    skipBlanks_solid (by decide) _
  have hblanks := h.skipBlanks (']' :: rest)
  obtain ⟨c, r, rfl, -, hbracket⟩ := h.begins
  rw [elements?.eq_def]
  simp only [hblanks, Option.bind_eq_bind, Option.bind_some]
  split
  · rename_i e
    cases e
    exact absurd rfl hbracket
  · simp only [hvalue, Option.bind_some, hclose]

theorem ReadsElements.cons (h : Reads depth cs v) (hs : ReadsElements depth ds vs) :
    ReadsElements depth (cs ++ ',' :: ds) (v :: vs) := by
  intro fuel rest hfuel
  rw [List.length_append, List.length_cons] at hfuel
  obtain ⟨f, rfl⟩ := Nat.exists_eq_add_of_le' (by omega : 1 ≤ fuel)
  have hvalue := h.read f (',' :: ds ++ ']' :: rest) (by omega) (ends_cons (by decide) _)
  have hcomma : Toml.skipBlanks (',' :: ds ++ ']' :: rest) = some (',' :: ds ++ ']' :: rest) :=
    skipBlanks_solid (by decide) _
  have hblanks := h.skipBlanks (',' :: ds ++ ']' :: rest)
  rw [List.append_assoc]
  obtain ⟨c, r, rfl, -, hbracket⟩ := h.begins
  rw [elements?.eq_def]
  simp only [hblanks, Option.bind_eq_bind, Option.bind_some]
  split
  · rename_i e
    cases e
    exact absurd rfl hbracket
  · simp only [hvalue, Option.bind_some, hcomma]
    simp only [List.cons_append, hs f rest (by omega), Option.bind_some]

theorem Reads.array (h : ReadsElements depth cs vs) :
    Reads (depth + 1) ('[' :: cs ++ [']']) (.array vs) where
  begins := ⟨_, _, rfl, by decide, by decide⟩
  read fuel rest hfuel _ := by
    simp only [List.length_cons, List.length_append, List.length_nil] at hfuel
    obtain ⟨f, rfl⟩ := Nat.exists_eq_add_of_le' (by omega : 1 ≤ fuel)
    have hopen : '[' :: cs ++ [']'] ++ rest = '[' :: (cs ++ ']' :: rest) := by simp
    rw [hopen, value?.eq_def]
    simp only [if_neg (by decide : ¬ ('[' = '"' ∨ '[' = '\'')), if_true, h f rest (by omega),
      Option.map_some]

/-! ## 2. Inline tables -/

theorem put_of_notMem {k : String} (node : Node) {ms : Members} (h : k ∉ ms.map Prod.fst) :
    put k node ms = ms ++ [(k, node)] := by
  rw [put_eq, putEntry_of_notMem node h]

theorem find?_eq_none {k : String} {ms : Members} (h : k ∉ ms.map Prod.fst) :
    find? k ms = none := by
  induction ms with
  | nil => rfl
  | cons m ms ih =>
    obtain ⟨hne, hrest⟩ := not_or.mp (mt List.mem_cons.mpr h)
    rw [find?, if_neg (Ne.symm hne), ih hrest]

/-- A value under a new name goes behind the others. -/
theorem assign_of_distinct {k : String} {v : Toml} {ms : Members} {es : List (String × Toml)}
    (h : Distinct (ms ++ ofEntries ((k, v) :: es))) :
    assign [k] v ms = some (ms ++ ofEntries [(k, v)]) := by
  have hk : k ∉ ms.map Prod.fst := by
    intro hmem
    rw [Distinct, List.map_append] at h
    exact (List.nodup_append.mp h).2.2 k hmem k (List.mem_cons_self ..) rfl
  rw [assign, find?_eq_none hk, put_of_notMem _ hk]
  rfl

theorem ofEntries_cons (ms : Members) (e : String × Toml) (es : List (String × Toml)) :
    ms ++ ofEntries (e :: es) = ms ++ ofEntries [e] ++ ofEntries es := by
  simp [ofEntries]

/-- **One entry of an inline table** is put behind the members read so far; what follows decides
    how the table goes on. -/
theorem pairs?_entry {key : List Char} {k : String} (hkey : IsKey key k) (h : Reads depth cs v)
    {ms ms' : Members} (hassign : assign [k] v ms = some ms') {fuel : Nat}
    (hfuel : cs.length ≤ fuel) {e : Char} (he : e = ',' ∨ e = '\x7d') (rest : List Char) :
    pairs? (fuel + 1) depth ms (key ++ '=' :: (cs ++ e :: rest)) =
      if e = ',' then pairs? fuel depth ms' rest else some (ms', rest) := by
  have hends : isBareChar e = false ∧ e ≠ '"' := by rcases he with rfl | rfl <;> decide
  have hsolid : Solid e := by rcases he with rfl | rfl <;> decide
  have hread := key?_of_isKey hkey (.inl rfl) (cs ++ e :: rest)
  have hequals : Toml.skipSpaces ('=' :: (cs ++ e :: rest)) = '=' :: (cs ++ e :: rest) :=
    List.dropWhile_cons_of_neg (by decide)
  have hvalue : value? fuel depth (Toml.skipSpaces (cs ++ e :: rest)) = some (v, e :: rest) := by
    rw [h.skipSpaces]
    exact h.read fuel _ hfuel (ends_cons hends rest)
  obtain ⟨c, r, rfl, hc⟩ := hkey.begins
  have hblanks := skipBlanks_solid (solid_of_begins hc) (r ++ '=' :: (cs ++ e :: rest))
  rw [List.cons_append] at hread ⊢
  rw [pairs?.eq_def]
  simp only [hblanks, Option.bind_eq_bind, Option.bind_some]
  split
  · rename_i hbrace
    cases hbrace
    exact absurd rfl (ne_of_begins (d := '\x7d') hc (by decide))
  · simp only [hread, Option.bind_some, hequals, hvalue, hassign, skipBlanks_solid hsolid]
    rcases he with rfl | rfl <;> rfl

theorem ReadsEntries.nil : ReadsEntries depth [] [] := by
  intro fuel ms rest hfuel _
  obtain ⟨f, rfl⟩ := Nat.exists_eq_add_of_le' hfuel
  have hclose : Toml.skipBlanks ('\x7d' :: rest) = some ('\x7d' :: rest) :=
    skipBlanks_solid (by decide) _
  rw [List.nil_append, pairs?.eq_def]
  simp only [List.length_nil, hclose, ofEntries, List.map_nil, List.append_nil]
  rfl

theorem ReadsEntries.one {key : List Char} {k : String} (hkey : IsKey key k)
    (h : Reads depth cs v) : ReadsEntries depth (key ++ '=' :: cs) [(k, v)] := by
  intro fuel ms rest hfuel hms
  simp only [List.length_append, List.length_cons] at hfuel
  obtain ⟨f, rfl⟩ := Nat.exists_eq_add_of_le' (by omega : 1 ≤ fuel)
  rw [List.append_assoc, List.cons_append]
  exact pairs?_entry hkey h (assign_of_distinct hms) (by omega) (.inr rfl) rest

theorem ReadsEntries.cons {key : List Char} {k : String} (hkey : IsKey key k)
    {es : List (String × Toml)} (h : Reads depth cs v) (hs : ReadsEntries depth ds es) :
    ReadsEntries depth (key ++ '=' :: cs ++ ',' :: ds) ((k, v) :: es) := by
  intro fuel ms rest hfuel hms
  simp only [List.length_append, List.length_cons] at hfuel
  obtain ⟨f, rfl⟩ := Nat.exists_eq_add_of_le' (by omega : 1 ≤ fuel)
  have hentry := pairs?_entry hkey h (assign_of_distinct hms) (by omega : cs.length ≤ f) (.inl rfl)
    (ds ++ '\x7d' :: rest)
  rw [if_pos rfl] at hentry
  rw [ofEntries_cons] at hms ⊢
  rw [← hs f _ rest (by omega) hms, ← hentry]
  simp

theorem Reads.table {es : List (String × Toml)} (h : ReadsEntries depth cs es)
    (hnames : (es.map Prod.fst).Nodup) :
    Reads (depth + 1) ('\x7b' :: cs ++ ['\x7d']) (.table es) where
  begins := ⟨_, _, rfl, by decide, by decide⟩
  read fuel rest hfuel _ := by
    simp only [List.length_cons, List.length_append, List.length_nil] at hfuel
    obtain ⟨f, rfl⟩ := Nat.exists_eq_add_of_le' (by omega : 1 ≤ fuel)
    have hdistinct : Distinct ([] ++ ofEntries es) := by
      rw [Distinct, List.nil_append, ofEntries, List.map_map]
      exact hnames
    have hopen : '\x7b' :: cs ++ ['\x7d'] ++ rest = '\x7b' :: (cs ++ '\x7d' :: rest) := by simp
    rw [hopen, value?.eq_def]
    simp only [if_neg (by decide : ¬ ('\x7b' = '"' ∨ '\x7b' = '\'')),
      if_neg (by decide : ¬ '\x7b' = '['), if_true, h f [] rest (by omega) hdistinct,
      Option.map_some, List.nil_append, membersToToml_ofEntries]

end Combining

/-! ## 3. Whole values -/

mutual

/-- A text of a value: quoted strings, numbers and truth values, and arrays and inline tables of
    them. Of floats, dates and numbers that cannot be read none is written. -/
def print : Toml → List Char
  | .string s => quote s
  | .integer n => (toString n).toList
  | .boolean b => (toString b).toList
  | .array vs => '[' :: printElements vs ++ [']']
  | .table es => '\x7b' :: printEntries es ++ ['\x7d']
  | _ => []

/-- Elements with commas between them. -/
def printElements : List Toml → List Char
  | [] => []
  | [v] => print v
  | v :: vs => print v ++ ',' :: printElements vs

/-- Entries with commas between them. -/
def printEntries : List (String × Toml) → List Char
  | [] => []
  | [(k, v)] => keyText k ++ '=' :: print v
  | (k, v) :: es => keyText k ++ '=' :: print v ++ ',' :: printEntries es

end

/-- **A value that has a text**: of the kinds that are written, where so many containers may be
    opened, with no name twice in a table. -/
inductive Printable : Nat → Toml → Prop where
  | string {depth : Nat} (s : String) : Printable depth (.string s)
  | integer {depth : Nat} {n : Int} (hlow : -(Word.maxSigned64 : Int) - 1 ≤ n)
      (hhigh : n ≤ Word.max64) : Printable depth (.integer n)
  | boolean {depth : Nat} (b : Bool) : Printable depth (.boolean b)
  | array {depth : Nat} {vs : List Toml} (h : ∀ v ∈ vs, Printable depth v) :
      Printable (depth + 1) (.array vs)
  | table {depth : Nat} {es : List (String × Toml)} (hnames : (es.map Prod.fst).Nodup)
      (h : ∀ e ∈ es, Printable depth e.2) : Printable (depth + 1) (.table es)

theorem elementsUnreadable?_eq_none {vs : List Toml} (h : ∀ v ∈ vs, v.unreadable? = none) :
    elementsUnreadable? vs = none := by
  induction vs with
  | nil => rfl
  | cons v vs ih =>
    rw [elementsUnreadable?, h v (List.mem_cons_self ..), ih fun u hu => h u (.tail _ hu)]
    rfl

theorem entriesUnreadable?_eq_none {es : List (String × Toml)}
    (h : ∀ e ∈ es, e.2.unreadable? = none) : entriesUnreadable? es = none := by
  induction es with
  | nil => rfl
  | cons e es ih =>
    have hfirst : e.2.unreadable? = none := h e (List.mem_cons_self ..)
    rw [entriesUnreadable?, hfirst, ih fun u hu => h u (.tail _ hu)]
    rfl

/-- Every number in such a value can be read. -/
theorem unreadable?_of_printable {depth : Nat} {v : Toml} (h : Printable depth v) :
    v.unreadable? = none := by
  induction h with
  | string => rfl
  | integer => rfl
  | boolean => rfl
  | array _ ih => exact elementsUnreadable?_eq_none ih
  | table _ _ ih => exact entriesUnreadable?_eq_none ih

theorem readsElements_print {depth : Nat} {vs : List Toml}
    (h : ∀ v ∈ vs, Reads depth v.print v) : ReadsElements depth (printElements vs) vs := by
  induction vs with
  | nil => exact .nil
  | cons v vs ih =>
    have hv := h v (List.mem_cons_self ..)
    cases vs with
    | nil => exact .one hv
    | cons w vs => exact .cons hv (ih fun u hu => h u (.tail _ hu))

theorem readsEntries_print {depth : Nat} {es : List (String × Toml)}
    (h : ∀ e ∈ es, Reads depth e.2.print e.2) : ReadsEntries depth (printEntries es) es := by
  induction es with
  | nil => exact .nil
  | cons e es ih =>
    obtain ⟨k, v⟩ := e
    have hv : Reads depth v.print v := h (k, v) (List.mem_cons_self ..)
    cases es with
    | nil => exact .one (isKey_keyText k) hv
    | cons e es => exact .cons (isKey_keyText k) hv (ih fun u hu => h u (.tail _ hu))

/-- **The text of a value reads as this value.** -/
theorem reads_print {depth : Nat} {v : Toml} (h : Printable depth v) : Reads depth v.print v := by
  induction h with
  | string s => exact .string s
  | integer hlow hhigh => exact .integer hlow hhigh
  | boolean b => exact .boolean b
  | array _ ih => exact .array (readsElements_print ih)
  | table hnames _ ih => exact .table (readsEntries_print ih) hnames

end DaprHosting.Toml
