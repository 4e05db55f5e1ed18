import DaprHosting.Proofs.Json.Tokens

/-!
# The grammar of documents

What a document is written as, said apart from the reader (`ValueText`): a token, or elements or
members with commas between them, each with white space around it. The reader takes just these texts
for just these values (`read?_eq_some_iff`), to any depth; so a text may be taken apart and put
together again member by member.
-/

namespace DaprHosting.Json

/-! ## 1. White space -/

/-- Nothing but white space. -/
def Blank (ws : List Char) : Prop := ∀ c ∈ ws, isSpace c = true

instance (ws : List Char) : Decidable (Blank ws) := List.decidableBAll _ _

theorem blank_nil : Blank [] := nofun

theorem blank_newLine (depth : Nat) : Blank (newLine depth) := by
  intro c hc
  rcases List.mem_cons.mp hc with rfl | hc
  · rfl
  · rw [List.eq_of_mem_replicate hc]
    rfl

theorem skip_append {ws : List Char} (h : Blank ws) (cs : List Char) : skip (ws ++ cs) = skip cs :=
  List.dropWhile_append_of_pos h

theorem skip_skip (cs : List Char) : skip (skip cs) = skip cs := by
  induction cs with
  | nil => rfl
  | cons c cs ih =>
    by_cases hc : isSpace c = true
    · have hskip : skip (c :: cs) = skip cs := List.dropWhile_cons_of_pos hc
      rw [hskip, ih]
    · have hskip : skip (c :: cs) = c :: cs := List.dropWhile_cons_of_neg hc
      rw [hskip, hskip]

theorem value?_congr {cs cs' : List Char} (h : skip cs = skip cs') (fuel : Nat) :
    value? fuel cs = value? fuel cs' := by
  cases fuel with
  | zero => rw [value?, value?]
  | succ fuel => rw [value?, value?, h]

theorem elements?_congr {cs cs' : List Char} (h : skip cs = skip cs') (fuel : Nat) :
    elements? fuel cs = elements? fuel cs' := by
  cases fuel with
  | zero => rw [elements?, elements?]
  | succ fuel => rw [elements?, elements?, value?_congr h]

theorem namedMembers?_congr {cs cs' : List Char} (h : skip cs = skip cs') (fuel : Nat) :
    namedMembers? fuel cs = namedMembers? fuel cs' := by
  cases fuel with
  | zero => rw [namedMembers?, namedMembers?]
  | succ fuel => rw [namedMembers?, namedMembers?, h]

/-- The text in front of the next sign is white space. -/
theorem exists_skip (cs : List Char) : ∃ ws r, Blank ws ∧ cs = ws ++ r ∧ skip cs = r :=
  ⟨cs.takeWhile isSpace, skip cs, fun _ hc => List.mem_takeWhile_imp hc,
    List.takeWhile_append_dropWhile.symm, rfl⟩

/-! ## 2. The grammar -/

/-- A value as it stands in an array: with white space before and behind it. -/
structure Element where
  front : List Char
  text : List Char
  back : List Char
  value : Json

/-- A member as it stands in an object: the literal of its name, then its value. A literal with half
    of a surrogate pair is the name of nothing. -/
structure Member where
  front : List Char
  literal : List Char
  gap : List Char
  element : Element
  name : Option String

/-- The text of an element. -/
def Element.written (e : Element) : List Char := e.front ++ (e.text ++ e.back)

/-- The text of a member. -/
def Member.written (m : Member) : List Char :=
  m.front ++ '"' :: (m.literal ++ '"' :: (m.gap ++ ':' :: m.element.written))

/-- What a member says. -/
def Member.entry (m : Member) : Option String × Json := (m.name, m.element.value)

/-- Texts with commas between them. -/
def commas (texts : List (List Char)) : List Char := [','].intercalate texts

/-- Around an element there is nothing but white space. -/
structure Element.Framed (e : Element) : Prop where
  front : Blank e.front
  back : Blank e.back

/-- Nor is there around the parts of a member, whose literal is that of its name. -/
structure Member.Framed (m : Member) : Prop where
  front : Blank m.front
  literal : LiteralText m.literal m.name
  gap : Blank m.gap
  element : m.element.Framed

/-- **What a value is written as.** -/
inductive ValueText : List Char → Json → Prop where
  | null : ValueText ['n', 'u', 'l', 'l'] .null
  | true : ValueText ['t', 'r', 'u', 'e'] (.bool true)
  | false : ValueText ['f', 'a', 'l', 's', 'e'] (.bool false)
  | number {cs : List Char} {t : Numeral} (h : NumeralText cs t) :
      ValueText cs ((t.value?.map Json.number).getD .void)
  | string {cs : List Char} {s : Option String} (h : LiteralText cs s) :
      ValueText ('"' :: (cs ++ ['"'])) ((s.map Json.string).getD .void)
  | emptyArray {ws : List Char} (h : Blank ws) : ValueText ('[' :: (ws ++ [']'])) (.array [])
  | array {es : List Element} (hne : es ≠ []) (hframed : ∀ e ∈ es, e.Framed)
      (h : ∀ e ∈ es, ValueText e.text e.value) :
      ValueText ('[' :: (commas (es.map Element.written) ++ [']'])) (.array (es.map Element.value))
  | emptyObject {ws : List Char} (h : Blank ws) :
      ValueText ('\x7b' :: (ws ++ ['\x7d'])) (.object [])
  | object {ms : List Member} (hne : ms ≠ []) (hframed : ∀ m ∈ ms, m.Framed)
      (h : ∀ m ∈ ms, ValueText m.element.text m.element.value) :
      ValueText ('\x7b' :: (commas (ms.map Member.written) ++ ['\x7d']))
        (ofMembers (ms.map Member.entry))

/-- **What a document is written as**: a value with white space around it. -/
inductive DocumentText : List Char → Json → Prop where
  | framed {e : Element} (hframed : e.Framed) (h : ValueText e.text e.value) :
      DocumentText e.written e.value

/-- An element with its text: what a value is written as, and white space around it. -/
structure Element.Spelled (e : Element) : Prop where
  framed : e.Framed
  text : ValueText e.text e.value

/-- A member with its text. -/
structure Member.Spelled (m : Member) : Prop where
  framed : m.Framed
  text : ValueText m.element.text m.element.value

/-- **What elements are written as**, one or more. -/
def ElementsText (cs : List Char) (js : List Json) : Prop :=
  ∃ es : List Element, es ≠ [] ∧ (∀ e ∈ es, e.Spelled) ∧
    commas (es.map Element.written) = cs ∧ es.map Element.value = js

/-- **What members are written as**, one or more. -/
def MembersText (cs : List Char) (entries : List (Option String × Json)) : Prop :=
  ∃ ms : List Member, ms ≠ [] ∧ (∀ m ∈ ms, m.Spelled) ∧
    commas (ms.map Member.written) = cs ∧ ms.map Member.entry = entries

theorem commas_cons (cs : List Char) {ds : List (List Char)} (h : ds ≠ []) :
    commas (cs :: ds) = cs ++ ',' :: commas ds := by
  obtain ⟨d, ds, rfl⟩ := List.exists_cons_of_ne_nil h
  rw [commas, List.intercalate_cons_cons, List.append_assoc]
  rfl

theorem commas_singleton (cs : List Char) : commas [cs] = cs := List.intercalate_singleton

namespace ElementsText

variable {e : Element} {cs : List Char} {js : List Json}

theorem one (he : e.Spelled) : ElementsText e.written [e.value] :=
  ⟨[e], List.cons_ne_nil _ _, List.forall_mem_singleton.mpr he, commas_singleton _, rfl⟩

theorem cons (he : e.Spelled) (h : ElementsText cs js) :
    ElementsText (e.written ++ ',' :: cs) (e.value :: js) := by
  obtain ⟨es, hne, hes, rfl, rfl⟩ := h
  exact ⟨e :: es, List.cons_ne_nil _ _, List.forall_mem_cons.mpr ⟨he, hes⟩,
    commas_cons _ (mt List.map_eq_nil_iff.mp hne), rfl⟩

theorem valueText (h : ElementsText cs js) : ValueText ('[' :: (cs ++ [']'])) (.array js) := by
  obtain ⟨es, hne, hes, rfl, rfl⟩ := h
  exact .array hne (fun e he => (hes e he).framed) fun e he => (hes e he).text

end ElementsText

namespace MembersText

variable {m : Member} {cs : List Char} {entries : List (Option String × Json)}

theorem one (hm : m.Spelled) : MembersText m.written [m.entry] :=
  ⟨[m], List.cons_ne_nil _ _, List.forall_mem_singleton.mpr hm, commas_singleton _, rfl⟩

theorem cons (hm : m.Spelled) (h : MembersText cs entries) :
    MembersText (m.written ++ ',' :: cs) (m.entry :: entries) := by
  obtain ⟨ms, hne, hms, rfl, rfl⟩ := h
  exact ⟨m :: ms, List.cons_ne_nil _ _, List.forall_mem_cons.mpr ⟨hm, hms⟩,
    commas_cons _ (mt List.map_eq_nil_iff.mp hne), rfl⟩

theorem valueText (h : MembersText cs entries) :
    ValueText ('\x7b' :: (cs ++ ['\x7d'])) (ofMembers entries) := by
  obtain ⟨ms, hne, hms, rfl, rfl⟩ := h
  exact .object hne (fun m hm => (hms m hm).framed) fun m hm => (hms m hm).text

end MembersText

/-! ## 3. What is written is read -/

/-- **The text is read as the value**, whatever stands behind it; only a number may not go on. -/
def Taken (cs : List Char) (j : Json) : Prop :=
  ∀ fuel rest, 2 * cs.length ≤ fuel → EndsNumber rest → value? fuel (cs ++ rest) = some (j, rest)

theorem endsNumber_blank {ws rest : List Char} (hw : Blank ws) (h : EndsNumber rest) :
    EndsNumber (ws ++ rest) := by
  cases ws with
  | nil => exact h
  | cons c ws =>
    intro d hd
    cases hd
    have hc := hw c (.head _)
    simp only [isSpace, Bool.or_eq_true, decide_eq_true_eq] at hc
    rcases hc with ((rfl | rfl) | rfl) | rfl <;> decide

theorem endsNumber_nil : EndsNumber [] := nofun

theorem endsNumber_cons {c : Char} (h : c = ',' ∨ c = ']' ∨ c = '\x7d') (rest : List Char) :
    EndsNumber (c :: rest) := by
  intro d hd
  cases hd
  rcases h with rfl | rfl | rfl <;> decide

/-- An element is read up to the white space behind it. -/
theorem value?_written {e : Element} (hframed : e.Framed) (h : Taken e.text e.value) (fuel : Nat)
    (hfuel : 2 * e.written.length ≤ fuel) {rest : List Char} (hend : EndsNumber rest) :
    value? fuel (e.written ++ rest) = some (e.value, e.back ++ rest) := by
  rw [Element.written, List.length_append, List.length_append] at hfuel
  rw [Element.written, List.append_assoc, value?_congr (skip_append hframed.front _),
    List.append_assoc]
  exact h fuel _ (by omega) (endsNumber_blank hframed.back hend)

/-- **Elements are read together.** -/
theorem elements?_written {es : List Element} (hne : es ≠ []) (hframed : ∀ e ∈ es, e.Framed)
    (h : ∀ e ∈ es, Taken e.text e.value) (fuel : Nat) (rest : List Char)
    (hfuel : 2 * (commas (es.map Element.written)).length + 1 ≤ fuel) :
    elements? fuel (commas (es.map Element.written) ++ ']' :: rest) =
      some (es.map Element.value, rest) := by
  obtain ⟨f, rfl⟩ := Nat.exists_eq_add_of_le' (by omega : 1 ≤ fuel)
  induction es generalizing f with
  | nil => exact absurd rfl hne
  | cons e es ih =>
    by_cases hes : es = []
    · subst hes
      rw [List.map_singleton, commas_singleton] at hfuel ⊢
      have he := value?_written (hframed e (.head _)) (h e (.head _)) f (by omega)
        (endsNumber_cons (.inr (.inl rfl)) rest)
      have hclose : skip (e.back ++ ']' :: rest) = ']' :: rest :=
        skip_append (hframed e (.head _)).back _
      rw [elements?, he]
      simp only [hclose, List.map_singleton]
    · have hmap : es.map Element.written ≠ [] := mt List.map_eq_nil_iff.mp hes
      rw [List.map_cons, commas_cons _ hmap] at hfuel ⊢
      rw [List.length_append, List.length_cons] at hfuel
      have he := fun r => value?_written (hframed e (.head _)) (h e (.head _)) f
        (by omega) (endsNumber_cons (.inl rfl) r)
      have hcomma : ∀ r, skip (e.back ++ ',' :: r) = ',' :: r :=
        fun r => skip_append (hframed e (.head _)).back _
      obtain ⟨g, rfl⟩ := Nat.exists_eq_add_of_le' (by omega : 1 ≤ f)
      have hrest := ih hes (fun d hd => hframed d (.tail _ hd)) (fun d hd => h d (.tail _ hd)) g
        (by omega)
      rw [List.append_assoc, List.cons_append, elements?, he]
      simp only [hcomma, hrest, List.map_cons]
      rfl

/-- A member starts with its literal, and its value comes behind the colon. -/
theorem Member.Framed.skip_written {m : Member} (h : m.Framed) (rest : List Char) :
    skip (m.written ++ rest) =
      '"' :: (m.literal ++ '"' :: (m.gap ++ ':' :: (m.element.written ++ rest))) := by
  rw [Member.written, List.append_assoc, skip_append h.front]
  simp only [List.cons_append, List.append_assoc]
  rfl

theorem Member.Framed.literal?_append {m : Member} (h : m.Framed) (rest : List Char) :
    literal? (m.literal ++ '"' :: rest) = some (m.name, rest) :=
  literal?_eq_some_iff.mpr ⟨m.literal, rfl, h.literal⟩

/-- **Members are read together.** -/
theorem namedMembers?_written {ms : List Member} (hne : ms ≠ []) (hframed : ∀ m ∈ ms, m.Framed)
    (h : ∀ m ∈ ms, Taken m.element.text m.element.value) (fuel : Nat) (rest : List Char)
    (hfuel : 2 * (commas (ms.map Member.written)).length + 1 ≤ fuel) :
    namedMembers? fuel (commas (ms.map Member.written) ++ '\x7d' :: rest) =
      some (ms.map Member.entry, rest) := by
  obtain ⟨f, rfl⟩ := Nat.exists_eq_add_of_le' (by omega : 1 ≤ fuel)
  induction ms generalizing f with
  | nil => exact absurd rfl hne
  | cons m ms ih =>
    have hm := hframed m (.head _)
    have hcolon : ∀ r, skip (m.gap ++ ':' :: r) = ':' :: r := fun r => skip_append hm.gap _
    have hlen : 2 * m.element.written.length ≤ 2 * m.written.length := by
      simp only [Member.written, List.length_append, List.length_cons]
      omega
    by_cases hms : ms = []
    · subst hms
      rw [List.map_singleton, commas_singleton] at hfuel ⊢
      have hvalue := value?_written hm.element (h m (.head _)) f (by omega)
        (endsNumber_cons (.inr (.inr rfl)) rest)
      have hclose : skip (m.element.back ++ '\x7d' :: rest) = '\x7d' :: rest :=
        skip_append hm.element.back _
      rw [namedMembers?, hm.skip_written]
      simp only [hm.literal?_append, hcolon, hvalue, hclose, List.map_singleton, Member.entry]
    · have hmap : ms.map Member.written ≠ [] := mt List.map_eq_nil_iff.mp hms
      rw [List.map_cons, commas_cons _ hmap] at hfuel ⊢
      rw [List.length_append, List.length_cons] at hfuel
      have hvalue := fun r => value?_written hm.element (h m (.head _)) f (by omega)
        (endsNumber_cons (.inl rfl) r)
      have hcomma : ∀ r, skip (m.element.back ++ ',' :: r) = ',' :: r :=
        fun r => skip_append hm.element.back _
      obtain ⟨g, rfl⟩ := Nat.exists_eq_add_of_le' (by omega : 1 ≤ f)
      have hrest := ih hms (fun d hd => hframed d (.tail _ hd)) (fun d hd => h d (.tail _ hd)) g
        (by omega)
      rw [List.append_assoc, List.cons_append, namedMembers?, hm.skip_written]
      simp only [hm.literal?_append, hcolon, hvalue, hcomma, hrest, List.map_cons, Member.entry]
      rfl

/-- A number is read as one. -/
theorem value?_numeral {cs rest : List Char} {t : Numeral} (h : NumeralText cs t)
    (hend : EndsNumber rest) (fuel : Nat) :
    value? (fuel + 1) (cs ++ rest) = some ((t.value?.map Json.number).getD .void, rest) := by
  have hread := numeral?_append h hend
  obtain ⟨c, r, rfl, hc⟩ := h.head
  have hne : ∀ d, d ≠ '-' → d.isDigit = false → c ≠ d := by
    rintro d hminus hdigit rfl
    rcases hc with hc | hc
    · exact hminus hc
    · rw [hdigit] at hc
      cases hc
  have hskip : skip (c :: r ++ rest) = c :: r ++ rest := by
    refine List.dropWhile_cons_of_neg ?_
    simp [isSpace, hne ' ', hne '\n', hne '\t', hne '\r']
  rw [value?, hskip, List.cons_append]
  simp only [if_neg (hne '"' (by decide) rfl), if_neg (hne '[' (by decide) rfl),
    if_neg (hne '\x7b' (by decide) rfl), if_neg (hne 't' (by decide) rfl),
    if_neg (hne 'f' (by decide) rfl), if_neg (hne 'n' (by decide) rfl)]
  rw [← List.cons_append, hread]
  rfl

/-- What is enclosed begins with its sign. -/
theorem skip_enclosed {o : Char} (ho : isSpace o = false) (cs : List Char) (c : Char)
    (rest : List Char) : skip (o :: (cs ++ [c]) ++ rest) = o :: (cs ++ c :: rest) := by
  rw [List.cons_append, List.append_assoc]
  exact List.dropWhile_cons_of_neg (by simp [ho])

/-- No text is empty, so there is fuel for one step at least. -/
theorem taken_of_succ {cs : List Char} {j : Json} (hne : cs ≠ [])
    (h : ∀ fuel rest, 2 * cs.length ≤ fuel + 1 → EndsNumber rest →
      value? (fuel + 1) (cs ++ rest) = some (j, rest)) : Taken cs j := by
  intro fuel rest hfuel hend
  have hlen := List.length_pos_iff.mpr hne
  obtain ⟨f, rfl⟩ := Nat.exists_eq_add_of_le' (by omega : 1 ≤ fuel)
  exact h f rest hfuel hend

/-- Elements do not start with the bracket that closes an array. -/
theorem skip_ne_of_elements? {cs : List Char} {fuel : Nat} {x : List Json × List Char}
    (h : elements? fuel cs = some x) (r : List Char) : skip cs ≠ ']' :: r := by
  intro e
  have hvalue : ∀ f, value? f cs = none := by
    intro f
    cases f with
    | zero => rw [value?]
    | succ f =>
      rw [value?, e]
      rfl
  cases fuel with
  | zero => cases h
  | succ f =>
    rw [elements?, hvalue] at h
    cases h

/-- Members do not start with the brace that closes an object. -/
theorem skip_ne_of_namedMembers? {cs : List Char} {fuel : Nat}
    {x : List (Option String × Json) × List Char} (h : namedMembers? fuel cs = some x)
    (r : List Char) : skip cs ≠ '\x7d' :: r := by
  intro e
  cases fuel with
  | zero => cases h
  | succ f =>
    rw [namedMembers?, e] at h
    cases h

/-- **Each text of a value is read as this value.** -/
theorem taken_of_valueText {cs : List Char} {j : Json} (h : ValueText cs j) : Taken cs j := by
  induction h with
  | null | true | false => exact taken_of_succ (List.cons_ne_nil _ _) fun f rest _ _ => rfl
  | number h =>
    obtain ⟨c, r, hcs, -⟩ := h.head
    refine taken_of_succ (by rw [hcs]; exact List.cons_ne_nil _ _) fun f rest _ hend => ?_
    exact value?_numeral h hend f
  | @string cs s h =>
    refine taken_of_succ (List.cons_ne_nil _ _) fun f rest _ _ => ?_
    have hread : literal? (cs ++ '"' :: rest) = some (s, rest) :=
      literal?_eq_some_iff.mpr ⟨cs, rfl, h⟩
    rw [value?, skip_enclosed (by decide)]
    simp only [if_true, hread]
    rfl
  | @emptyArray ws h =>
    refine taken_of_succ (List.cons_ne_nil _ _) fun f rest _ _ => ?_
    have hclose : skip (ws ++ ']' :: rest) = ']' :: rest := skip_append h _
    rw [value?, skip_enclosed (by decide)]
    simp only [if_neg (by decide : ¬ '[' = '"'), if_true, hclose]
  | @array es hne hframed _ ih =>
    refine taken_of_succ (List.cons_ne_nil _ _) fun f rest hfuel _ => ?_
    simp only [List.length_cons, List.length_append, List.length_nil] at hfuel
    have hread := elements?_written hne hframed ih f rest (by omega)
    rw [value?, skip_enclosed (by decide)]
    simp only [if_neg (by decide : ¬ '[' = '"'), if_true]
    split
    · rename_i r e
      exact absurd e (skip_ne_of_elements? hread r)
    · rw [elements?_congr (skip_skip _), hread]
      rfl
  | @emptyObject ws h =>
    refine taken_of_succ (List.cons_ne_nil _ _) fun f rest _ _ => ?_
    have hclose : skip (ws ++ '\x7d' :: rest) = '\x7d' :: rest := skip_append h _
    rw [value?, skip_enclosed (by decide)]
    simp only [if_neg (by decide : ¬ '\x7b' = '"'), if_neg (by decide : ¬ '\x7b' = '['), if_true,
      hclose]
  | @object ms hne hframed _ ih =>
    refine taken_of_succ (List.cons_ne_nil _ _) fun f rest hfuel _ => ?_
    simp only [List.length_cons, List.length_append, List.length_nil] at hfuel
    have hread := namedMembers?_written hne hframed ih f rest (by omega)
    rw [value?, skip_enclosed (by decide)]
    simp only [if_neg (by decide : ¬ '\x7b' = '"'), if_neg (by decide : ¬ '\x7b' = '['), if_true]
    split
    · rename_i r e
      exact absurd e (skip_ne_of_namedMembers? hread r)
    · rw [namedMembers?_congr (skip_skip _), hread]
      rfl

/-! ## 4. What is read is written -/

section Soundness

variable {fuel : Nat}

/-- What the reader takes for a value is a text of it, behind white space. -/
def TakesValues (fuel : Nat) : Prop :=
  ∀ {cs r : List Char} {j : Json}, value? fuel cs = some (j, r) →
    ∃ ws text, cs = ws ++ (text ++ r) ∧ Blank ws ∧ ValueText text j

/-- What it takes for elements is a text of them, before a bracket. -/
def TakesElements (fuel : Nat) : Prop :=
  ∀ {cs r : List Char} {js : List Json}, elements? fuel cs = some (js, r) →
    ∃ text, cs = text ++ ']' :: r ∧ ElementsText text js

/-- What it takes for members is a text of them, before a brace. -/
def TakesMembers (fuel : Nat) : Prop :=
  ∀ {cs r : List Char} {entries : List (Option String × Json)},
    namedMembers? fuel cs = some (entries, r) →
    ∃ text, cs = text ++ '\x7d' :: r ∧ MembersText text entries

theorem takesElements_succ (hvalues : TakesValues fuel) (helements : TakesElements fuel) :
    TakesElements (fuel + 1) := by
  intro cs r js h
  rw [elements?] at h
  split at h
  · cases h
  rename_i j s hvalue
  obtain ⟨ws, text, rfl, hws, htext⟩ := hvalues hvalue
  obtain ⟨back, s, hback, rfl, hskip⟩ := exists_skip s
  let e : Element := ⟨ws, text, back, j⟩
  have he : e.Spelled := ⟨⟨hws, hback⟩, htext⟩
  have hwritten : ws ++ (text ++ (back ++ s)) = e.written ++ s := by
    simp only [e, Element.written, List.append_assoc]
  rw [hskip] at h
  rw [hwritten]
  split at h
  · rw [Option.map_eq_some_iff] at h
    obtain ⟨⟨js', r'⟩, hread, hpair⟩ := h
    cases hpair
    obtain ⟨text', rfl, htext'⟩ := helements hread
    exact ⟨_, by simp, htext'.cons he⟩
  · cases h
    exact ⟨_, rfl, .one he⟩
  · cases h

theorem takesMembers_succ (hvalues : TakesValues fuel) (hmembers : TakesMembers fuel) :
    TakesMembers (fuel + 1) := by
  intro cs r entries h
  obtain ⟨front, cs, hfront, rfl, hskip⟩ := exists_skip cs
  rw [namedMembers?, hskip] at h
  split at h
  rotate_left
  · cases h
  split at h
  · cases h
  rename_i name rest hliteral
  obtain ⟨literal, rfl, hname⟩ := literal?_eq_some_iff.mp hliteral
  obtain ⟨gap, rest, hgap, rfl, hskip⟩ := exists_skip rest
  rw [hskip] at h
  split at h
  rotate_left
  · cases h
  split at h
  · cases h
  rename_i j s hvalue
  obtain ⟨ws, text, rfl, hws, htext⟩ := hvalues hvalue
  obtain ⟨back, s, hback, rfl, hskip⟩ := exists_skip s
  let m : Member := ⟨front, literal, gap, ⟨ws, text, back, j⟩, name⟩
  have hm : m.Spelled := ⟨⟨hfront, hname, hgap, hws, hback⟩, htext⟩
  have hwritten : front ++ '"' :: (literal ++
      '"' :: (gap ++ ':' :: (ws ++ (text ++ (back ++ s))))) = m.written ++ s := by
    simp only [m, Member.written, Element.written, List.append_assoc, List.cons_append]
  rw [hskip] at h
  rw [hwritten]
  split at h
  · rw [Option.map_eq_some_iff] at h
    obtain ⟨⟨entries', r'⟩, hread, hpair⟩ := h
    cases hpair
    obtain ⟨text', rfl, htext'⟩ := hmembers hread
    exact ⟨_, by simp, htext'.cons hm⟩
  · cases h
    exact ⟨_, rfl, .one hm⟩
  · cases h

/-- What is read by its first sign and its other signs. -/
theorem exists_of_after? {word cs r : List Char} {c : Char} {j j' : Json}
    (h : (Text.after? word cs).map (j', ·) = some (j, r)) (htext : ValueText (c :: word) j') :
    ∃ text, c :: cs = text ++ r ∧ ValueText text j := by
  rw [Option.map_eq_some_iff] at h
  obtain ⟨r', hread, hpair⟩ := h
  cases hpair
  rw [Text.eq_append_of_after? hread]
  exact ⟨c :: word, rfl, htext⟩

theorem takesValues_succ (helements : TakesElements fuel) (hmembers : TakesMembers fuel) :
    TakesValues (fuel + 1) := by
  intro cs r j h
  obtain ⟨ws, front, hws, rfl, hskip⟩ := exists_skip cs
  suffices hread : ∃ text, front = text ++ r ∧ ValueText text j by
    obtain ⟨text, rfl, htext⟩ := hread
    exact ⟨ws, text, rfl, hws, htext⟩
  rw [value?, hskip] at h
  split at h
  · cases h
  rename_i c cs
  -- the cases are those of the first sign
  split at h
  · rename_i hc
    subst hc
    rw [Option.map_eq_some_iff] at h
    obtain ⟨⟨s, r'⟩, hread, hpair⟩ := h
    cases hpair
    obtain ⟨text, rfl, htext⟩ := literal?_eq_some_iff.mp hread
    exact ⟨_, by simp, .string htext⟩
  split at h
  · rename_i hc
    subst hc
    obtain ⟨ws', cs, hws', rfl, hskip⟩ := exists_skip cs
    rw [hskip] at h
    split at h
    · cases h
      exact ⟨_, by simp, .emptyArray hws'⟩
    · rw [Option.map_eq_some_iff] at h
      obtain ⟨⟨js, r'⟩, hread, hpair⟩ := h
      cases hpair
      rw [← hskip, elements?_congr (skip_skip _)] at hread
      obtain ⟨text, hcs, htext⟩ := helements hread
      rw [hcs]
      exact ⟨_, by simp, htext.valueText⟩
  split at h
  · rename_i hc
    subst hc
    obtain ⟨ws', cs, hws', rfl, hskip⟩ := exists_skip cs
    rw [hskip] at h
    split at h
    · cases h
      exact ⟨_, by simp, .emptyObject hws'⟩
    · rw [Option.map_eq_some_iff] at h
      obtain ⟨⟨entries, r'⟩, hread, hpair⟩ := h
      cases hpair
      rw [← hskip, namedMembers?_congr (skip_skip _)] at hread
      obtain ⟨text, hcs, htext⟩ := hmembers hread
      rw [hcs]
      exact ⟨_, by simp, htext.valueText⟩
  split at h
  · rename_i hc
    subst hc
    exact exists_of_after? h .true
  split at h
  · rename_i hc
    subst hc
    exact exists_of_after? h .false
  split at h
  · rename_i hc
    subst hc
    exact exists_of_after? h .null
  rw [Option.map_eq_some_iff] at h
  obtain ⟨⟨t, r'⟩, hread, hpair⟩ := h
  cases hpair
  obtain ⟨text, htext, hnumeral⟩ := numeralText_of_numeral? hread
  exact ⟨text, htext, .number hnumeral⟩

end Soundness

/-- **With any fuel the reader takes nothing but texts of values.** -/
theorem takes (fuel : Nat) : TakesValues fuel ∧ TakesElements fuel ∧ TakesMembers fuel := by
  induction fuel with
  | zero =>
    refine ⟨fun h => ?_, fun h => ?_, fun h => ?_⟩
    · rw [value?] at h
      cases h
    · rw [elements?] at h
      cases h
    · rw [namedMembers?] at h
      cases h
  | succ fuel ih =>
    obtain ⟨hvalues, helements, hmembers⟩ := ih
    exact ⟨takesValues_succ helements hmembers, takesElements_succ hvalues helements,
      takesMembers_succ hvalues hmembers⟩

/-- **The reader takes just the texts of documents**, each for the document that it is written
    for. -/
theorem read?_eq_some_iff {s : String} {j : Json} :
    read? s = some j ↔ DocumentText s.toList j := by
  rw [read?, ofChars?]
  constructor
  · intro h
    split at h
    rotate_left
    · cases h
    rename_i j' r hvalue
    split at h
    rotate_left
    · cases h
    rename_i hend
    cases h
    obtain ⟨front, text, hcs, hfront, htext⟩ := (takes _).1 hvalue
    obtain ⟨back, r, hback, rfl, hskip⟩ := exists_skip r
    rw [hend] at hskip
    subst hskip
    rw [hcs, List.append_nil]
    exact .framed (e := ⟨front, text, back, _⟩) ⟨hfront, hback⟩ htext
  · intro h
    generalize s.toList = cs at h
    cases h with
    | @framed e hframed htext =>
      have hread := value?_written hframed (taken_of_valueText htext)
        (2 * e.written.length + 2) (by omega) endsNumber_nil
      have hback : skip e.back = [] := by
        rw [← List.append_nil e.back]
        exact skip_append hframed.back []
      rw [List.append_nil, List.append_nil] at hread
      rw [hread]
      exact if_pos hback

/-- A text of a value is read with white space around it. -/
theorem read?_framed {cs ws ws' : List Char} {j : Json} (h : ValueText cs j) (hw : Blank ws)
    (hw' : Blank ws') : read? (String.ofList (ws ++ (cs ++ ws'))) = some j := by
  rw [read?_eq_some_iff, String.toList_ofList]
  exact .framed (e := ⟨ws, cs, ws', j⟩) ⟨hw, hw'⟩ h

/-! ## 5. Objects member by member -/

/-- **An object as it stands in a text**: its members, and white space around it; where it has no
    member, also between its braces. -/
structure ObjectText where
  front : List Char
  members : List Member
  gap : List Char
  back : List Char
  front_blank : Blank front
  spelled : ∀ m ∈ members, m.Spelled
  gap_blank : Blank gap
  back_blank : Blank back

namespace ObjectText

/-- What stands between the braces. -/
def body (d : ObjectText) : List Char :=
  if d.members = [] then d.gap else commas (d.members.map Member.written)

/-- The text itself. -/
def text (d : ObjectText) : String :=
  String.ofList (d.front ++ ('\x7b' :: (d.body ++ ['\x7d']) ++ d.back))

end ObjectText

/-- What the members of an object are read as. -/
def contents (ms : List Member) : List (String × Json) :=
  ms.filterMap fun m => m.name.map (·, m.element.value)

theorem contents_cons {m : Member} {k : String} (h : m.name = some k) (ms : List Member) :
    contents (m :: ms) = (k, m.element.value) :: contents ms :=
  List.filterMap_cons_some (by rw [h]; rfl)

/-- The second row has one member more. -/
def Member.InsertedIn (m : Member) (ms ms' : List Member) : Prop :=
  ∃ before after, ms = before ++ after ∧ ms' = before ++ m :: after

theorem Member.InsertedIn.mem {m : Member} {ms ms' : List Member} (h : m.InsertedIn ms ms') :
    m ∈ ms' := by
  obtain ⟨before, after, -, rfl⟩ := h
  exact List.mem_append_right before (.head after)

/-- The other members are the same. -/
theorem Member.InsertedIn.forall_mem {m : Member} {ms ms' : List Member} (h : m.InsertedIn ms ms')
    {P : Member → Prop} : (∀ e ∈ ms', P e) ↔ P m ∧ ∀ e ∈ ms, P e := by
  obtain ⟨before, after, rfl, rfl⟩ := h
  rw [List.forall_mem_append, List.forall_mem_append, List.forall_mem_cons, and_left_comm]

/-- What is inserted is read at its place. -/
theorem Member.InsertedIn.contents {m : Member} {ms ms' : List Member} (h : m.InsertedIn ms ms')
    {k : String} (hk : m.name = some k) :
    ∃ before after, contents ms = before ++ after ∧
      contents ms' = before ++ (k, m.element.value) :: after := by
  obtain ⟨before, after, rfl, rfl⟩ := h
  exact ⟨Json.contents before, Json.contents after, List.filterMap_append,
    (List.filterMap_append).trans (by rw [← contents_cons hk]; rfl)⟩

/-- **Members with names make an object.** -/
theorem ofMembers_contents {ms : List Member} (h : ∀ m ∈ ms, m.name ≠ none) :
    ofMembers (ms.map Member.entry) = .object (contents ms) := by
  have hnames : (ms.map Member.entry).mapM (fun e => e.1.map (·, e.2)) = some (contents ms) := by
    induction ms with
    | nil => rfl
    | cons m ms ih =>
      obtain ⟨hm, hms⟩ := List.forall_mem_cons.mp h
      obtain ⟨k, hk⟩ := Option.ne_none_iff_exists'.mp hm
      rw [List.map_cons, List.mapM_cons, ih hms, contents_cons hk]
      simp only [Member.entry, hk, Option.map_some]
      rfl
  rw [ofMembers, hnames]

/-- **A member without a name makes nothing of them.** -/
theorem ofMembers_nameless {ms : List Member} {m : Member} (hm : m ∈ ms) (h : m.name = none) :
    ofMembers (ms.map Member.entry) = .void := by
  have hnone : (ms.map Member.entry).mapM (fun e => e.1.map (·, e.2)) = none := by
    induction ms with
    | nil => cases hm
    | cons m' ms ih =>
      rw [List.map_cons, List.mapM_cons]
      rcases List.mem_cons.mp hm with rfl | hm
      · simp only [Member.entry, h, Option.map_none]
        rfl
      · rw [ih hm]
        cases m'.entry.1.map (·, m'.entry.2) <;> rfl
  rw [ofMembers, hnone]

namespace ObjectText

theorem read?_text (d : ObjectText) :
    read? d.text = some (ofMembers (d.members.map Member.entry)) := by
  have hvalue : ValueText ('\x7b' :: (d.body ++ ['\x7d']))
      (ofMembers (d.members.map Member.entry)) := by
    by_cases hnil : d.members = []
    · rw [body, if_pos hnil, hnil]
      exact .emptyObject d.gap_blank
    · rw [body, if_neg hnil]
      exact .object hnil (fun m hm => (d.spelled m hm).framed) fun m hm => (d.spelled m hm).text
  exact read?_framed hvalue d.front_blank d.back_blank

/-- **The text is read as the object of its members.** -/
theorem read?_of_named {d : ObjectText} (h : ∀ m ∈ d.members, m.name ≠ none) :
    read? d.text = some (.object (contents d.members)) := by
  rw [read?_text, ofMembers_contents h]

/-- With a member that has no name it is read as nothing. -/
theorem read?_of_nameless {d : ObjectText} {m : Member} (hm : m ∈ d.members) (h : m.name = none) :
    read? d.text = some .void := by
  rw [read?_text, ofMembers_nameless hm h]

end ObjectText

/-- **A text that is read as an object consists of members.** -/
theorem exists_objectText {s : String} {ms : List (String × Json)}
    (h : read? s = some (.object ms)) : ∃ d : ObjectText, d.text = s := by
  rw [read?_eq_some_iff] at h
  generalize hcs : s.toList = cs at h
  generalize hj : Json.object ms = j at h
  cases h with
  | @framed e hframed htext =>
    obtain ⟨front, text, back, value⟩ := e
    have hs : s = String.ofList (front ++ (text ++ back)) := by
      rw [← String.ofList_toList (s := s), hcs]
      rfl
    dsimp only at htext hj
    cases htext with
    | null | true | false | emptyArray | array => cases hj
    | @number _ t =>
      cases hvalue : t.value? <;> rw [hvalue] at hj <;> cases hj
    | @string _ s => cases s <;> cases hj
    | @emptyObject ws hws =>
      refine ⟨⟨front, [], ws, back, hframed.front, nofun, hws, hframed.back⟩, ?_⟩
      rw [hs, ObjectText.text, ObjectText.body, if_pos rfl]
    | @object members hne hmembers hvalues =>
      have hspelled : ∀ m ∈ members, m.Spelled := fun m hm => ⟨hmembers m hm, hvalues m hm⟩
      refine ⟨⟨front, members, [], back, hframed.front, hspelled, blank_nil, hframed.back⟩, ?_⟩
      rw [hs, ObjectText.text, ObjectText.body, if_neg hne]

end DaprHosting.Json
