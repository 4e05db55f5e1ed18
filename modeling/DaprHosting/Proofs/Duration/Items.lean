import DaprHosting.Proofs.Duration.Sums
import DaprHosting.Proofs.Lists
import DaprHosting.Proofs.Results
import DaprHosting.Proofs.Text.Decimal
import DaprHosting.Proofs.Text.Trimmed

/-!
# Durations written as items

An item is a number and the name of a unit, a text one item after the other with white space between
them or nothing (`ItemsText`). Reading such a text adds its items one after the other
(`ofChars_items`), which `Adds` says all about; and whatever text is read as a duration, its nanoseconds are below
one second and its seconds fit 64 bits (`normal_of_ofChars`).
-/

namespace DaprHosting.Duration

open Text (digitValue isBlank)

/-! ## 1. Texts -/

/-- **What is written for a number**: digits, with white space anywhere behind the first. -/
inductive NumberText : List Char → Nat → Prop where
  | digits {c : Char} {cs : List Char} (first : c.isDigit = true)
      (more : ∀ d ∈ cs, d.isDigit = true ∨ isBlank d = true) :
      NumberText (c :: cs) (Nat.ofDigitChars 10 ((c :: cs).filter Char.isDigit) 0)

/-- **What is written for an item**: its count, and a name of its unit. -/
inductive ItemText : List Char → Item → Prop where
  | counted {cs : List Char} {n : Nat} {u : TimeUnit} {name : String} (count : NumberText cs n)
      (unit : name ∈ u.names) : ItemText (cs ++ name.toList) ⟨n, u⟩

/-- **What is written for items**: one behind the other, white space between them or nothing. -/
inductive ItemsText : List Char → List Item → Prop where
  | one {cs : List Char} {i : Item} (item : ItemText cs i) : ItemsText cs [i]
  | more {cs gap text : List Char} {i : Item} {is : List Item} (item : ItemText cs i)
      (blank : ∀ c ∈ gap, isBlank c = true) (items : ItemsText text is) :
      ItemsText (cs ++ gap ++ text) (i :: is)

/-! ## 2. Characters -/

theorem bounds_of_isUnitLetter {c : Char} (h : isUnitLetter c = true) :
    65 ≤ c.toNat ∧ c.toNat ≤ 122 ∨ c.toNat = 181 := by
  rw [isUnitLetter, Bool.or_eq_true, decide_eq_true_eq] at h
  obtain halpha | rfl := h
  · exact .inl (Text.bounds_of_isAlpha halpha)
  · exact .inr rfl

/-- A digit is no letter, -/
theorem isUnitLetter_of_isDigit {c : Char} (h : c.isDigit = true) : isUnitLetter c = false := by
  rw [← Bool.not_eq_true]
  intro hletter
  have hbounds := bounds_of_isUnitLetter hletter
  have hbounds' := Text.bounds_of_isDigit h
  omega

/-- and neither is a blank. -/
theorem isUnitLetter_of_isBlank {c : Char} (h : isBlank c = true) : isUnitLetter c = false := by
  rw [← Bool.not_eq_true]
  intro hletter
  have hbounds := bounds_of_isUnitLetter hletter
  simp [isBlank, Text.blankRanges] at h
  omega

/-- A unit is found by each of its names, and letters make them up. -/
theorem TimeUnit.of_mem_names {u : TimeUnit} {name : String} (h : name ∈ u.names) :
    TimeUnit.ofName? name = some u ∧ name.toList ≠ [] ∧
      ∀ c ∈ name.toList, isUnitLetter c = true := by
  have hall : u.names.all (fun name => TimeUnit.ofName? name == some u &&
      !name.toList.isEmpty && name.toList.all isUnitLetter) = true := by
    cases u <;> decide +kernel
  have hname := List.all_eq_true.mp hall name h
  simp only [Bool.and_eq_true, beq_iff_eq, Bool.not_eq_true', List.isEmpty_eq_false_iff,
    List.all_eq_true] at hname
  exact ⟨hname.1.1, hname.1.2, hname.2⟩

/-! ## 3. The ends of a text -/

/-- A number starts with a digit, -/
theorem NumberText.first {cs : List Char} {n : Nat} (h : NumberText cs n) :
    ∃ c ds, cs = c :: ds ∧ c.isDigit = true := by
  cases h with
  | digits first more => exact ⟨_, _, rfl, first⟩

/-- and so does a text of items. -/
theorem ItemsText.first {text : List Char} {is : List Item} (h : ItemsText text is) :
    ∃ c cs, text = c :: cs ∧ c.isDigit = true := by
  have hitem : ∀ {cs i}, ItemText cs i → ∃ c ds, cs = c :: ds ∧ c.isDigit = true := by
    rintro _ _ ⟨count, -⟩
    obtain ⟨c, ds, rfl, hc⟩ := count.first
    exact ⟨c, _, rfl, hc⟩
  cases h with
  | one item => exact hitem item
  | more item blank items =>
    obtain ⟨c, ds, rfl, hc⟩ := hitem item
    exact ⟨c, _, rfl, hc⟩

/-- It ends with a letter. -/
theorem ItemsText.last {text : List Char} {is : List Item} (h : ItemsText text is) {c : Char}
    (hc : text.getLast? = some c) : isUnitLetter c = true := by
  induction h with
  | one item =>
    obtain ⟨count, unit⟩ := item
    obtain ⟨-, hne, hletters⟩ := TimeUnit.of_mem_names unit
    rw [List.getLast?_append_of_ne_nil _ hne] at hc
    exact hletters c (List.mem_of_getLast? hc)
  | more item blank items ih =>
    obtain ⟨c', rest, rfl, -⟩ := items.first
    rw [List.getLast?_append_of_ne_nil _ (List.cons_ne_nil c' rest)] at hc
    exact ih hc

/-- So there is nothing to trim. -/
theorem ItemsText.trimmed {text : List Char} {is : List Item} (h : ItemsText text is)
    {front back : List Char} (hfront : ∀ c ∈ front, isBlank c = true)
    (hback : ∀ c ∈ back, isBlank c = true) : Text.trimChars (front ++ text ++ back) = text := by
  refine Text.trimChars_surrounded hfront hback (fun c hc => ?_) fun c hc => ?_
  · obtain ⟨d, cs, rfl, hd⟩ := h.first
    cases hc
    exact Text.isBlank_of_isDigit hd
  · rw [← Bool.not_eq_true]
    intro hblank
    have hletter := h.last hc
    rw [isUnitLetter_of_isBlank hblank] at hletter
    cases hletter

/-! ## 4. Numbers and gaps -/

/-- **Digits are added to a number up to their value, when 64 bits hold it.** -/
theorem numberPart_append {ds : List Char} (hds : ∀ c ∈ ds, c.isDigit = true ∨ isBlank c = true)
    (rest : List Char) {n : Nat} (hn : n ≤ Word.max64) (place : Nat) :
    ∃ place', numberPart n place (ds ++ rest) =
      fit (Nat.ofDigitChars 10 (ds.filter Char.isDigit) n) >>=
        fun n => numberPart n place' rest := by
  induction ds generalizing n place with
  | nil =>
    refine ⟨place, ?_⟩
    rw [List.filter_nil, Nat.ofDigitChars_nil, fit_of_le hn]
    rfl
  | cons c ds ih =>
    rw [List.forall_mem_cons] at hds
    obtain ⟨hc, hds⟩ := hds
    rw [List.cons_append, numberPart]
    by_cases hdigit : c.isDigit = true
    · rw [Text.decimalDigit?_of_isDigit hdigit, List.filter_cons_of_pos hdigit,
        Text.ofDigitChars_cons]
      obtain hover | hfits := Nat.lt_or_ge Word.max64 (n * 10 + digitValue c)
      · -- the digits that are still to come make the number no smaller
        have hgrows := Text.le_ofDigitChars (ds.filter Char.isDigit) (n * 10 + digitValue c)
        refine ⟨place, (if_neg (Nat.not_le.mpr hover)).trans ?_⟩
        rw [fit_of_lt (Nat.lt_of_lt_of_le hover hgrows)]
        rfl
      · obtain ⟨place', h⟩ := ih hds hfits (place + 1)
        exact ⟨place', (if_pos hfits).trans h⟩
    · have hblank := hc.resolve_left hdigit
      obtain ⟨place', h⟩ := ih hds hn (place + c.utf8Size)
      rw [Bool.not_eq_true] at hdigit
      refine ⟨place', ?_⟩
      rw [Text.decimalDigit?_of_not_isDigit hdigit, List.filter_cons_of_neg (by simp [hdigit])]
      exact (if_pos hblank).trans h

/-- White space in front of a digit is passed over. -/
theorem firstDigit_append {gap : List Char} (hgap : ∀ c ∈ gap, isBlank c = true) {c : Char}
    (hc : c.isDigit = true) (rest : List Char) (start place : Nat) :
    ∃ place', firstDigit start place (gap ++ c :: rest) =
      .ok (some (digitValue c, place', rest)) := by
  induction gap generalizing place with
  | nil =>
    refine ⟨place + 1, ?_⟩
    rw [List.nil_append, firstDigit, Text.decimalDigit?_of_isDigit hc]
  | cons b gap ih =>
    rw [List.forall_mem_cons] at hgap
    obtain ⟨hb, hgap⟩ := hgap
    obtain ⟨place', h⟩ := ih hgap (place + b.utf8Size)
    refine ⟨place', ?_⟩
    rw [List.cons_append, firstDigit,
      Text.decimalDigit?_of_not_isDigit (Text.isDigit_of_isBlank hb)]
    exact (if_pos hb).trans h

/-! ## 5. Items -/

theorem numberPart_letter {c : Char} (hc : isUnitLetter c = true) (cs : List Char) (n place : Nat) :
    numberPart n place (c :: cs) = .ok ⟨n, none, place, c :: cs⟩ := by
  have hdigit : c.isDigit = false := by
    rw [← Bool.not_eq_true]
    intro h
    rw [isUnitLetter_of_isDigit h] at hc
    cases hc
  have hblank : ¬ isBlank c = true := by
    intro h
    rw [isUnitLetter_of_isBlank h] at hc
    cases hc
  rw [numberPart, Text.decimalDigit?_of_not_isDigit hdigit]
  simp only [if_neg hblank, if_pos hc]

section Reading

variable {c : Char} {cs : List Char} {n : Nat} {u : TimeUnit} {name : String}

/-- A number is read from its first digit on. -/
theorem numberPart_number (h : NumberText (c :: cs) n) (rest : List Char) (place : Nat) :
    ∃ place', numberPart (digitValue c) place (cs ++ rest) =
      fit n >>= fun n => numberPart n place' rest := by
  cases h with
  | digits first more =>
    have hfits : digitValue c ≤ Word.max64 :=
      Nat.le_trans (Nat.le_of_lt (Text.digitValue_lt first)) (by decide)
    rw [List.filter_cons_of_pos first, Text.ofDigitChars_cons, Nat.zero_mul, Nat.zero_add]
    exact numberPart_append more rest hfits place

/-- A number ends at the name of its unit. -/
theorem numberPart_counted (hcount : NumberText (c :: cs) n) (hunit : name ∈ u.names)
    (rest : List Char) (place : Nat) :
    ∃ place', numberPart (digitValue c) place (cs ++ (name.toList ++ rest)) =
      (fit n).map fun n => ⟨n, none, place', name.toList ++ rest⟩ := by
  obtain ⟨place', h⟩ := numberPart_number hcount (name.toList ++ rest) place
  obtain ⟨-, hne, hletters⟩ := TimeUnit.of_mem_names hunit
  obtain ⟨l, ls, hname⟩ := List.exists_cons_of_ne_nil hne
  have hl : isUnitLetter l = true := hletters l (by rw [hname]; exact List.mem_cons_self ..)
  refine ⟨place', ?_⟩
  rw [h, hname]
  simp only [List.cons_append, numberPart_letter hl]
  rfl

/-- An item with the name of its unit is added. -/
theorem addItem_of_mem_names (hunit : name ∈ u.names) (d : Duration) (n : Nat) :
    d.addItem n none name.toList = d.add (u.length.map (n * ·) (n * ·)) := by
  obtain ⟨hname, hne, -⟩ := TimeUnit.of_mem_names hunit
  rw [addItem, if_neg hne, String.ofList_toList, hname]
  dsimp only
  cases d.add (u.length.map (n * ·) (n * ·)) with
  | ok d => rfl
  | error e => rfl

/-- The last item is added. -/
theorem items_last (hcount : NumberText (c :: cs) n) (hunit : name ∈ u.names) (fuel : Nat)
    (d : Duration) (place : Nat) :
    items (fuel + 1) d (digitValue c) place (cs ++ name.toList) = Item.addTo ⟨n, u⟩ d := by
  obtain ⟨place', hnum⟩ := numberPart_counted hcount hunit [] place
  obtain ⟨-, -, hletters⟩ := TimeUnit.of_mem_names hunit
  have hname : name.toList.takeWhile isUnitLetter = name.toList :=
    List.takeWhile_eq_self_iff.mpr hletters
  have hend : name.toList.dropWhile isUnitLetter = [] := List.dropWhile_eq_nil_iff.mpr hletters
  rw [List.append_nil] at hnum
  rw [items, hnum, Item.addTo]
  cases fit n with
  | error e => rfl
  | ok n =>
    simp only [Except.map, bind, Except.bind, hname, hend]
    exact addItem_of_mem_names hunit d n

/-- An item in front of others is added first. -/
theorem items_next (hcount : NumberText (c :: cs) n) (hunit : name ∈ u.names) {gap : List Char}
    (hgap : ∀ b ∈ gap, isBlank b = true) {c' : Char} (hc' : c'.isDigit = true) (rest : List Char)
    (fuel : Nat) (d : Duration) (place : Nat) :
    ∃ place', items (fuel + 1) d (digitValue c) place
        (cs ++ (name.toList ++ (gap ++ c' :: rest))) =
      Item.addTo ⟨n, u⟩ d >>= fun d => items fuel d (digitValue c') place' rest := by
  obtain ⟨stop, hnum⟩ := numberPart_counted hcount hunit (gap ++ c' :: rest) place
  obtain ⟨-, -, hletters⟩ := TimeUnit.of_mem_names hunit
  -- without a gap the digit itself ends the name, else the first blank does
  cases gap with
  | nil =>
    have hhead : ∀ l, (c' :: rest).head? = some l → isUnitLetter l = false := by
      rintro _ ⟨⟩
      exact isUnitLetter_of_isDigit hc'
    have hname := takeWhile_append_of_head hletters hhead
    have hend := dropWhile_append_of_head hletters hhead
    refine ⟨stop + Text.byteCount name.toList + 1, ?_⟩
    rw [List.nil_append] at hnum ⊢
    rw [items, hnum, Item.addTo]
    cases fit n with
    | error e => rfl
    | ok n =>
      simp only [Except.map, bind, Except.bind, hname, hend, Text.decimalDigit?_of_isDigit hc',
        addItem_of_mem_names hunit]
  | cons b gap =>
    rw [List.forall_mem_cons] at hgap
    obtain ⟨hb, hgap⟩ := hgap
    have hhead : ∀ l, (b :: (gap ++ c' :: rest)).head? = some l → isUnitLetter l = false := by
      rintro _ ⟨⟩
      exact isUnitLetter_of_isBlank hb
    have hname := takeWhile_append_of_head hletters hhead
    have hend := dropWhile_append_of_head hletters hhead
    have hbdigit := Text.decimalDigit?_of_not_isDigit (Text.isDigit_of_isBlank hb)
    obtain ⟨place', hdigit⟩ := firstDigit_append hgap hc' rest
      (stop + Text.byteCount name.toList + b.utf8Size)
      (stop + Text.byteCount name.toList + b.utf8Size)
    refine ⟨place', ?_⟩
    rw [List.cons_append] at hnum ⊢
    rw [items, hnum, Item.addTo]
    cases fit n with
    | error e => rfl
    | ok n =>
      simp only [Except.map, bind, Except.bind, hname, hend, hbdigit, if_pos hb,
        addItem_of_mem_names hunit, hdigit]

end Reading

/-- **Items are added one after the other.** The induction is on the text; each item takes one step
    of the reader, and at least one character. -/
theorem items_addAll {text : List Char} {is : List Item} (h : ItemsText text is) {c : Char}
    {cs : List Char} (htext : text = c :: cs) {fuel : Nat} (hfuel : text.length ≤ fuel)
    (d : Duration) (place : Nat) :
    items fuel d (digitValue c) place cs = addAll is d := by
  induction h generalizing c cs fuel d place with
  | @one _ i item =>
    obtain ⟨count, unit⟩ := item
    obtain ⟨c', ds, rfl, -⟩ := count.first
    rw [List.cons_append, List.cons.injEq] at htext
    obtain ⟨rfl, rfl⟩ := htext
    cases fuel with
    | zero => cases hfuel
    | succ fuel =>
      rw [items_last count unit, addAll, List.foldlM_cons]
      exact (bind_pure _).symm
  | @more _ gap text i is item blank items ih =>
    obtain ⟨count, unit⟩ := item
    obtain ⟨c', ds, rfl, -⟩ := count.first
    obtain ⟨c'', rest, rfl, hc''⟩ := items.first
    rw [List.append_assoc, List.append_assoc, List.cons_append, List.cons.injEq] at htext
    obtain ⟨rfl, rfl⟩ := htext
    cases fuel with
    | zero => cases hfuel
    | succ fuel =>
      have hrest : (c'' :: rest).length ≤ fuel := by
        simp only [List.length_append, List.length_cons] at hfuel ⊢
        omega
      obtain ⟨place', hnext⟩ := items_next count unit blank hc'' rest fuel d place
      rw [hnext, addAll, List.foldlM_cons]
      exact congrArg _ (funext fun d => ih rfl hrest d place')

/-- A text that starts with a digit is read from there on. -/
theorem ofChars_cons {c : Char} (hc : c.isDigit = true) (cs : List Char) :
    ofChars (c :: cs) = items ((c :: cs).length + 1) zero (digitValue c) 1 cs := by
  rw [ofChars, firstDigit, Text.decimalDigit?_of_isDigit hc]
  rfl

/-- **Reading a text of items adds them.** -/
theorem ofChars_items {text : List Char} {is : List Item} (h : ItemsText text is) :
    ofChars text = addAll is zero := by
  obtain ⟨c, cs, rfl, hc⟩ := h.first
  rw [ofChars_cons hc]
  exact items_addAll h rfl (Nat.le_succ _) zero 1

/-- A number alone that 64 bits do not hold is refused as too large, whatever unit it lacks. -/
theorem ofChars_of_large {cs : List Char} {n : Nat} (h : NumberText cs n) (hn : Word.max64 < n) :
    ofChars cs = .error .tooLarge := by
  obtain ⟨c, ds, rfl, hc⟩ := h.first
  obtain ⟨place', hnum⟩ := numberPart_number h [] 1
  rw [List.append_nil, fit_of_lt hn] at hnum
  rw [ofChars_cons hc, items, hnum]
  rfl

/-! ## 6. Every text -/

theorem Adds.normal {d d' : Duration} {n : Nat} {t stops : Prop} {r : Except Fault Duration}
    (h : Adds d n t stops r) (hr : r = .ok d') : Normal d' := by
  cases h with
  | sum normal length =>
    cases hr
    exact normal
  | tooLarge h => cases hr
  | stopped h => cases hr

theorem normal_of_addItem {d d' : Duration} (hd : Normal d) {n : Nat} {f : Option Fraction}
    {name : List Char} (h : d.addItem n f name = .ok d') : Normal d' := by
  unfold addItem at h
  split at h
  · cases h
  split at h
  · cases h
  rename_i u hu
  obtain ⟨e, hadd, h⟩ := bind_eq_ok h
  have he : Normal e := by
    cases hlength : u.length with
    | inl k =>
      rw [hlength] at hadd
      exact (addNanos_adds hd _).normal hadd
    | inr k =>
      rw [hlength] at hadd
      exact (addSeconds_adds hd _).normal hadd
  split at h
  · cases h
    exact he
  split at h
  · cases h
  · obtain ⟨m, -, h⟩ := bind_eq_ok h
    exact (addNanos_adds he m).normal h
  · obtain ⟨m, -, h⟩ := bind_eq_ok h
    exact (addSeconds_adds he m).normal h

/-- Each step of the reader adds an item, or ends. -/
theorem normal_of_items {fuel : Nat} {d d' : Duration} (hd : Normal d) {n place : Nat}
    {cs : List Char} (h : items fuel d n place cs = .ok d') : Normal d' := by
  induction fuel generalizing d n place cs with
  | zero =>
    cases h
    exact hd
  | succ fuel ih =>
    rw [items] at h
    obtain ⟨num, -, h⟩ := bind_eq_ok h
    dsimp only at h
    split at h
    · exact normal_of_addItem hd h
    split at h
    · obtain ⟨e, hadd, h⟩ := bind_eq_ok h
      exact ih (normal_of_addItem hd hadd) h
    split at h
    · obtain ⟨e, hadd, h⟩ := bind_eq_ok h
      have he := normal_of_addItem hd hadd
      obtain ⟨next, -, h⟩ := bind_eq_ok h
      split at h
      · cases h
        exact he
      · exact ih he h
    · cases h

/-- **Whatever is read as a duration, its seconds fit 64 bits, and its nanoseconds are below one
    second.** -/
theorem normal_of_ofChars {cs : List Char} {d : Duration} (h : ofChars cs = .ok d) : Normal d := by
  obtain ⟨first, -, h⟩ := bind_eq_ok h
  split at h
  · cases h
  · exact normal_of_items normal_zero h

end DaprHosting.Duration
