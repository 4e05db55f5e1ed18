import DaprHosting.Proofs.Toml.Written

/-!
# Documents are read as they were written

A text leads from one reading of a document to the next if its lines do, whatever lines follow
(`Leads`). A line with a key and the text of a value leads to one more member, and a header with
such lines below it to one more table. So a document of keys and tables is read as the entries that
it was written for: `read?_document`.
-/

namespace DaprHosting.Toml

/-! ## 1. Lines -/

/-- **The lines lead from a reading to another**, whatever lines follow them. -/
def Leads (d : Reading) (cs : List Char) (d' : Reading) : Prop :=
  ∀ fuel rest, (cs ++ rest).length ≤ fuel → ∃ fuel', rest.length ≤ fuel' ∧
    lines? fuel d (cs ++ rest) = lines? fuel' d' rest

theorem Leads.refl (d : Reading) : Leads d [] d :=
  fun fuel _ hfuel => ⟨fuel, hfuel, rfl⟩

theorem Leads.trans {d d₁ d₂ : Reading} {cs ds : List Char} (h₁ : Leads d cs d₁)
    (h₂ : Leads d₁ ds d₂) : Leads d (cs ++ ds) d₂ := by
  intro fuel rest hfuel
  rw [List.append_assoc] at hfuel ⊢
  obtain ⟨fuel₁, hfuel₁, hlines₁⟩ := h₁ fuel (ds ++ rest) hfuel
  obtain ⟨fuel₂, hfuel₂, hlines₂⟩ := h₂ fuel₁ rest hfuel₁
  exact ⟨fuel₂, hfuel₂, hlines₁.trans hlines₂⟩

/-- Where the lines lead, the document ends. -/
theorem Leads.lines? {d d' : Reading} {cs : List Char} (h : Leads d cs d') :
    Toml.lines? (cs.length + 1) d cs = some d' := by
  obtain ⟨fuel, -, hlines⟩ := h (cs.length + 1) [] (by rw [List.append_nil]; omega)
  rw [List.append_nil] at hlines
  rw [hlines]
  cases fuel with
  | zero => rfl
  | succ fuel => rfl

/-- **One line** of which nothing is left but its end. -/
theorem leads_of_line? {d d' : Reading} {cs : List Char} {c : Char} (hc : isSpace c = false)
    (h : ∀ rest, d.line? (c :: cs ++ '\n' :: rest) = some (d', '\n' :: rest)) :
    Leads d (c :: cs ++ ['\n']) d' := by
  intro fuel rest hfuel
  have htext : c :: cs ++ ['\n'] ++ rest = c :: cs ++ '\n' :: rest := by simp
  rw [htext] at hfuel ⊢
  obtain ⟨f, rfl⟩ := Nat.exists_eq_add_of_le' (Nat.le_trans (Nat.le_add_left 1 _) hfuel)
  refine ⟨f, ?_, ?_⟩
  · simp only [List.cons_append, List.length_cons, List.length_append] at hfuel
    omega
  · have hskip : skipSpaces (c :: cs ++ '\n' :: rest) = c :: cs ++ '\n' :: rest :=
      List.dropWhile_cons_of_neg (by simp [hc])
    have hne : c :: cs ++ '\n' :: rest ≠ [] := List.cons_ne_nil _ _
    rw [Toml.lines?, if_neg hne, hskip, h rest]
    rfl

/-- A line that starts like a key is one of a key and a value. -/
theorem line?_of_begins (d : Reading) {c : Char} (hc : c = '"' ∨ isKeyChar c = true)
    {cs r r' : List Char} {k : List String} (hkey : key? (c :: cs) = some (k, '=' :: r)) {v : Toml}
    (hvalue : value? (2 * r.length + 2) maxDepth (skipSpaces r) = some (v, r')) {ms : Members}
    (hassign : within (assign k v) d.path d.members = some ms) :
    d.line? (c :: cs) = some (⟨ms, d.path⟩, r') := by
  have hne : ∀ {x}, x ≠ '"' ∧ isKeyChar x = false → c ≠ x := ne_of_begins hc
  have hend : lineEnd? (c :: cs) = none := by
    rw [lineEnd?.eq_def]
    split
    · rename_i e
      cases e
      exact absurd rfl (hne (x := '\n') (by decide))
    · rename_i e
      cases e
      exact absurd rfl (hne (x := '\r') (by decide))
    · rfl
  have hplain : ¬ (c :: cs = [] ∨ (c :: cs).head? = some '#' ∨
      (lineEnd? (c :: cs)).isSome = true) := by
    rw [hend]
    rintro (h | h | h)
    · cases h
    · exact hne (by decide) (Option.some.inj h)
    · cases h
  have hequals : Text.after? ['='] (skipSpaces ('=' :: r)) = some r := Text.after?_append ['='] r
  unfold Reading.line?
  split
  · rename_i e
    cases e
    exact absurd rfl (hne (x := '[') (by decide))
  · rename_i e
    cases e
    exact absurd rfl (hne (x := '[') (by decide))
  · rw [if_neg hplain]
    simp only [hkey, Option.bind_eq_bind, Option.bind_some, hequals, hvalue, hassign]
    rfl

/-- The line of a key and a value. -/
def pairLine (key : List Char) (v : Toml) : List Char := key ++ '=' :: v.print ++ ['\n']

/-- **A line with a key and a value** sets the value under the key. -/
theorem leads_pairLine {d : Reading} {key : List Char} {k : String} {v : Toml} {ms : Members}
    (hkey : IsKey key k) (hv : Reads maxDepth v.print v)
    (hassign : within (assign [k] v) d.path d.members = some ms) :
    Leads d (pairLine key v) ⟨ms, d.path⟩ := by
  obtain ⟨c, r, rfl, hc⟩ := hkey.begins
  have hline : c :: r ++ '=' :: v.print ++ ['\n'] = c :: (r ++ '=' :: v.print) ++ ['\n'] := rfl
  rw [pairLine, hline]
  refine leads_of_line? (isSpace_of_begins hc) fun rest => ?_
  have htext : c :: (r ++ '=' :: v.print) ++ '\n' :: rest =
      c :: (r ++ '=' :: (v.print ++ '\n' :: rest)) := by simp
  have hvalue : value? (2 * (v.print ++ '\n' :: rest).length + 2) maxDepth
      (skipSpaces (v.print ++ '\n' :: rest)) = some (v, '\n' :: rest) := by
    rw [hv.skipSpaces]
    refine hv.read _ _ ?_ (ends_cons (by decide) rest)
    rw [List.length_append]
    omega
  rw [htext]
  exact line?_of_begins d hc (key?_of_isKey hkey (.inl rfl) _) hvalue hassign

/-- The line of a header. -/
def headerLine (key : List Char) : List Char := '[' :: key ++ [']', '\n']

/-- **A header** opens a table, which the keys below it go to. -/
theorem leads_headerLine {d : Reading} {key : List Char} {name : String} (hkey : IsKey key name)
    {ms : Members} (hopen : openTable name d.members = some ms) :
    Leads d (headerLine key) ⟨ms, [name]⟩ := by
  have hline : headerLine key = '[' :: (key ++ [']']) ++ ['\n'] := by simp [headerLine]
  rw [hline]
  refine leads_of_line? (by decide) fun rest => ?_
  have htext : '[' :: (key ++ [']']) ++ '\n' :: rest = '[' :: (key ++ ']' :: '\n' :: rest) := by
    simp
  have hread := key?_of_isKey hkey (.inr rfl) ('\n' :: rest)
  have hbracket : Text.after? [']'] (']' :: '\n' :: rest) = some ('\n' :: rest) :=
    Text.after?_append [']'] _
  have hopened : d.open? [name] openTable = some ⟨ms, [name]⟩ := by
    simp only [Reading.open?, List.getLast?_singleton, List.dropLast_singleton, within, hopen,
      Option.bind_eq_bind, Option.bind_some]
    rfl
  obtain ⟨c, r, rfl, hc⟩ := hkey.begins
  have hskip : skipSpaces (c :: r ++ ']' :: '\n' :: rest) = c :: r ++ ']' :: '\n' :: rest :=
    List.dropWhile_cons_of_neg (by simp [isSpace_of_begins hc])
  rw [htext]
  unfold Reading.line?
  split
  · rename_i e
    cases e
    exact absurd rfl (ne_of_begins (d := '[') hc (by decide))
  · rename_i e
    cases e
    simp only [hskip, hread, Option.bind_eq_bind, Option.bind_some, hbracket, hopened]
    rfl
  · rename_i hplain
    exact absurd rfl (hplain _)

/-! ## 2. Tables -/

theorem find?_concat {name : String} (node : Node) {ms : Members} (h : name ∉ ms.map Prod.fst) :
    find? name (ms ++ [(name, node)]) = some node := by
  induction ms with
  | nil => exact if_pos rfl
  | cons m ms ih =>
    obtain ⟨hne, hrest⟩ := not_or.mp (mt List.mem_cons.mpr h)
    rw [List.cons_append, find?, if_neg (Ne.symm hne), ih hrest]

theorem put_concat {name : String} (node node' : Node) {ms : Members}
    (h : name ∉ ms.map Prod.fst) :
    put name node' (ms ++ [(name, node)]) = ms ++ [(name, node')] := by
  induction ms with
  | nil => exact if_pos rfl
  | cons m ms ih =>
    obtain ⟨hne, hrest⟩ := not_or.mp (mt List.mem_cons.mpr h)
    rw [List.cons_append, put, if_neg (Ne.symm hne), ih hrest]
    rfl

/-- The lines of entries. -/
def pairLines (es : List (String × Toml)) : List Char :=
  es.flatMap fun e => pairLine (keyText e.1) e.2

/-- **Lines of keys and values** set the values one after the other, in the table that the last
    header opened, or outermost before the first. -/
theorem leads_pairLines {path : List String} {table : Members → Members}
    (htable : ∀ change inner, within change path (table inner) = (change inner).map table)
    {es : List (String × Toml)} (hes : ∀ e ∈ es, Printable maxDepth e.2) {ms : Members}
    (hnames : Distinct (ms ++ ofEntries es)) :
    Leads ⟨table ms, path⟩ (pairLines es) ⟨table (ms ++ ofEntries es), path⟩ := by
  induction es generalizing ms with
  | nil =>
    rw [ofEntries, List.map_nil, List.append_nil]
    exact .refl _
  | cons e es ih =>
    obtain ⟨k, v⟩ := e
    have hassign : within (assign [k] v) path (table ms) =
        some (table (ms ++ ofEntries [(k, v)])) := by
      rw [htable, assign_of_distinct hnames, Option.map_some]
    have hfirst := leads_pairLine (d := ⟨table ms, path⟩) (isKey_keyText k)
      (reads_print (hes _ (List.mem_cons_self ..))) hassign
    rw [ofEntries_cons] at hnames ⊢
    exact hfirst.trans (ih (fun e he => hes e (.tail _ he)) hnames)

/-- A header and the lines of its table. -/
def tableLines (t : String × List (String × Toml)) : List Char :=
  headerLine (keyText t.1) ++ pairLines t.2

/-- The members that headers have opened. -/
def ofTables (ts : List (String × List (String × Toml))) : Members :=
  ts.map fun t => (t.1, .table .header (ofEntries t.2))

/-- **A table that can be written**: no name twice, and only values that have a text. -/
structure PrintableEntries (es : List (String × Toml)) : Prop where
  names : (es.map Prod.fst).Nodup
  values : ∀ e ∈ es, Printable maxDepth e.2

theorem PrintableEntries.distinct {es : List (String × Toml)} (h : PrintableEntries es) :
    Distinct ([] ++ ofEntries es) := by
  rw [Distinct, List.nil_append, ofEntries, List.map_map]
  exact h.names

/-- **A table with its header** goes behind the members of other names. -/
theorem leads_tableLines {ms : Members} {path : List String}
    {t : String × List (String × Toml)} (ht : PrintableEntries t.2) (hname : t.1 ∉ ms.map Prod.fst) :
    Leads ⟨ms, path⟩ (tableLines t) ⟨ms ++ ofTables [t], [t.1]⟩ := by
  have hopen : openTable t.1 ms = some (ms ++ [(t.1, .table .header [])]) := by
    rw [openTable, find?_eq_none hname, put_of_notMem _ hname]
  have hbelow : ∀ change inner, within change [t.1] (ms ++ [(t.1, .table .header inner)]) =
      (change inner).map fun inner => ms ++ [(t.1, .table .header inner)] := by
    intro change inner
    rw [within, find?_concat _ hname]
    simp only [within, put_concat _ _ hname]
  have hlines := leads_pairLines hbelow ht.values ht.distinct
  exact (leads_headerLine (isKey_keyText t.1) hopen).trans hlines

theorem leads_tables {ms : Members} {path : List String}
    {ts : List (String × List (String × Toml))} (hts : ∀ t ∈ ts, PrintableEntries t.2)
    (hnames : Distinct (ms ++ ofTables ts)) :
    ∃ path', Leads ⟨ms, path⟩ (ts.flatMap tableLines) ⟨ms ++ ofTables ts, path'⟩ := by
  induction ts generalizing ms path with
  | nil =>
    rw [ofTables, List.map_nil, List.append_nil]
    exact ⟨path, .refl _⟩
  | cons t ts ih =>
    have hname : t.1 ∉ ms.map Prod.fst := by
      intro hmem
      rw [Distinct, List.map_append] at hnames
      exact (List.nodup_append.mp hnames).2.2 _ hmem _ (List.mem_cons_self ..) rfl
    have hcons : ms ++ ofTables (t :: ts) = ms ++ ofTables [t] ++ ofTables ts := by simp [ofTables]
    rw [hcons] at hnames ⊢
    obtain ⟨path', hrest⟩ := ih (fun u hu => hts u (.tail _ hu)) hnames
    exact ⟨path', (leads_tableLines (hts t (List.mem_cons_self ..)) hname).trans hrest⟩

/-! ## 3. Documents -/

/-- The text of a document: outermost entries, and tables behind headers. -/
def documentText (es : List (String × Toml)) (ts : List (String × List (String × Toml))) : String :=
  String.ofList (pairLines es ++ ts.flatMap tableLines)

example : documentText [("name", .string "a\"b")] [("settings", [("a.b", .integer 3)])] =
    "name=\"a\\\"b\"\n[settings]\n\"a.b\"=3\n" := by cbv

/-- No document starts with a byte order mark. -/
theorem dropMark_document (es : List (String × Toml)) (ts : List (String × List (String × Toml))) :
    dropMark (pairLines es ++ ts.flatMap tableLines) = pairLines es ++ ts.flatMap tableLines := by
  have hmark : ∀ {c : Char} {cs : List Char}, c ≠ '\uFEFF' → dropMark (c :: cs) = c :: cs := by
    intro c cs hc
    refine if_neg fun h => hc ?_
    rw [← Char.ofNat_toNat c, h]
  cases es with
  | cons e es =>
    obtain ⟨c, r, hkey, hc⟩ := (isKey_keyText e.1).begins
    simp only [pairLines, List.flatMap_cons, pairLine, hkey, List.cons_append]
    exact hmark (ne_of_begins hc (by decide))
  | nil =>
    cases ts with
    | nil => rfl
    | cons t ts =>
      simp only [pairLines, List.flatMap_nil, List.nil_append, List.flatMap_cons, tableLines,
        headerLine, List.cons_append]
      exact hmark (by decide)

/-- **A document is read as the entries that it was written for**, those outermost first. -/
theorem read?_document {es : List (String × Toml)} {ts : List (String × List (String × Toml))}
    (hnames : (es.map Prod.fst ++ ts.map Prod.fst).Nodup)
    (hes : ∀ e ∈ es, Printable maxDepth e.2) (hts : ∀ t ∈ ts, PrintableEntries t.2) :
    read? (documentText es ts) = some (es ++ ts.map fun t => (t.1, .table t.2)) := by
  have hdistinct : Distinct (ofEntries es ++ ofTables ts) := by
    rw [Distinct, List.map_append, ofEntries, ofTables, List.map_map, List.map_map]
    exact hnames
  have htop : Distinct ([] ++ ofEntries es) := by
    rw [Distinct, List.map_append] at hdistinct
    exact (List.nodup_append.mp hdistinct).1
  have houter : Leads {} (pairLines es) ⟨ofEntries es, []⟩ :=
    @leads_pairLines [] id (fun _ _ => (Option.map_id' ..).symm) es hes [] htop
  obtain ⟨path, hinner⟩ : ∃ path, Leads ⟨ofEntries es, []⟩ (ts.flatMap tableLines)
      ⟨ofEntries es ++ ofTables ts, path⟩ := leads_tables hts hdistinct
  have hlines := (houter.trans hinner).lines?
  have hmembers : membersToToml (ofEntries es ++ ofTables ts) =
      es ++ ts.map fun t => (t.1, .table t.2) := by
    have htables : membersToToml (ofTables ts) = ts.map fun t => (t.1, .table t.2) := by
      rw [membersToToml_eq_map, ofTables, List.map_map]
      refine List.map_congr_left fun t _ => ?_
      simp [Node.toToml, membersToToml_ofEntries]
    rw [membersToToml_eq_map, List.map_append, ← membersToToml_eq_map, ← membersToToml_eq_map,
      membersToToml_ofEntries, htables]
  rw [read?, documentText, String.toList_ofList, dropMark_document]
  exact (congrArg (Option.map fun d => membersToToml d.members) hlines).trans
    (congrArg some hmembers)

end DaprHosting.Toml
