import DaprHosting.Layer.Decode
import DaprHosting.Proofs.Duration.Items
import DaprHosting.Proofs.Results

/-!
# Timeouts are exact

A whole number of seconds can be written in three ways: as an integer of a configuration file, as a
bare number, and as a number with its unit. All three are read alike (`Seconds`), although each goes
its own way through the readers. A text of items is read as their sum (`ReadsSum`): exactly, or it
is refused, for it is zero or too large; unless one of them overruns, which stops the program. A
bare number may have a plus; a number with a unit has no sign.
-/

namespace DaprHosting.RequestTimeout

open Duration (Item ItemText ItemsText Normal NumberText Overruns addAll total)
open Text (isBlank trimChars)

/-! ## 1. Outcomes -/

/-- No timeout is zero. -/
theorem toNanos_pos (t : RequestTimeout) : 0 < t.duration.toNanos :=
  Nat.pos_of_ne_zero (mt Duration.toNanos_eq_zero_iff.mp t.ne_zero)

/-- **Exactly so many seconds**, or the complaint about zero. -/
structure Seconds (n : Nat) (r : Except Fault RequestTimeout) : Prop where
  zero : n = 0 → r = .error .zero
  exact : 0 < n → ∃ t, r = .ok t ∧ t.duration = ⟨n, 0⟩

/-- **Exactly the sum of the items**, or a refusal. -/
structure ReadsSum (is : List Item) (r : Except Fault RequestTimeout) : Prop where
  /-- What is accepted has the length of the items together. -/
  sum : ∀ t, r = .ok t → t.duration.toNanos = total is
  /-- It is refused as zero just when they have no length. -/
  zero : r = .error .zero ↔ total is = 0
  /-- It is refused for nothing else but that it is too large, -/
  refused : ∀ f, r = .error f → f = .zero ∨ f = .invalid .tooLarge
  /-- and this whenever 64 bits do not hold the seconds. -/
  large : Duration.limit ≤ total is → r = .error (.invalid .tooLarge)
  /-- What fits, item by item and together, is accepted. -/
  fits : 0 < total is → total is < Duration.limit → (∀ i ∈ is, i.HasRoom) → ∃ t, r = .ok t

theorem ofDuration_zero : ofDuration .zero = .error .zero := rfl

theorem ofDuration_of_ne {d : Duration} (h : d ≠ .zero) : ofDuration d = .ok ⟨d, h⟩ := dif_pos h

theorem duration_of_ofDuration {d : Duration} {t : RequestTimeout} (h : ofDuration d = .ok t) :
    t.duration = d := by
  by_cases hzero : d = .zero
  · subst hzero
    cases h
  · rw [ofDuration_of_ne hzero] at h
    cases h
    rfl

theorem seconds_ofSeconds (n : Nat) : Seconds n (ofSeconds n) := by
  refine ⟨?_, fun hpos => ?_⟩
  · rintro rfl
    exact ofDuration_zero
  · have hne : (⟨n, 0⟩ : Duration) ≠ .zero := by
      intro h
      cases h
      cases hpos
    exact ⟨_, ofDuration_of_ne hne, rfl⟩

/-- Two outcomes of one count of seconds are the same. -/
theorem Seconds.eq {n : Nat} {r r' : Except Fault RequestTimeout} (h : Seconds n r)
    (h' : Seconds n r') : r = r' := by
  obtain rfl | hpos := Nat.eq_zero_or_pos n
  · rw [h.zero rfl, h'.zero rfl]
  · obtain ⟨⟨d, hne⟩, rfl, hd⟩ := h.exact hpos
    obtain ⟨⟨d', hne'⟩, rfl, hd'⟩ := h'.exact hpos
    cases hd
    cases hd'
    rfl

/-- The deadline of what items come to. -/
def ofSum (d : Except Duration.Fault Duration) : Except Fault RequestTimeout :=
  match d with
  | .ok d => ofDuration d
  | .error f => .error (.ofCause f)

/-- A duration of exactly the sum is a timeout unless it is zero. -/
theorem readsSum_ofDuration {is : List Item} {d : Duration} (hd : Normal d)
    (hlen : d.toNanos = total is) : ReadsSum is (ofDuration d) := by
  have hlt := hd.toNanos_lt
  rw [hlen] at hlt
  have hfits : ¬ Duration.limit ≤ total is := Nat.not_le.mpr hlt
  by_cases hzero : d = .zero
  · have htotal : total is = 0 := hlen ▸ Duration.toNanos_eq_zero_iff.mpr hzero
    subst hzero
    exact {
      sum := nofun
      zero := iff_of_true rfl htotal
      refused := fun f hf => .inl (Except.error.inj hf).symm
      large := fun hlarge => absurd hlarge hfits
      fits := fun hpos => absurd htotal (Nat.ne_of_gt hpos) }
  · have htotal : total is ≠ 0 := hlen ▸ mt Duration.toNanos_eq_zero_iff.mp hzero
    rw [ofDuration_of_ne hzero]
    exact {
      sum := fun t ht => by cases ht; exact hlen
      zero := iff_of_false nofun htotal
      refused := nofun
      large := fun hlarge => absurd hlarge hfits
      fits := fun _ _ _ => ⟨_, rfl⟩ }

/-- A sum is too large only where it is so in itself, or without room for some item. -/
theorem readsSum_tooLarge {is : List Item}
    (h : (∀ i ∈ is, i.HasRoom) → Duration.limit ≤ total is) :
    ReadsSum is (.error (.invalid .tooLarge)) := by
  have htotal : total is ≠ 0 := by
    intro hzero
    have hlimit := h (Duration.hasRoom_of_total hzero)
    rw [hzero] at hlimit
    exact absurd hlimit (by decide)
  exact {
    sum := nofun
    zero := iff_of_false nofun htotal
    refused := fun f hf => .inr (Except.error.inj hf).symm
    large := fun _ => rfl
    fits := fun _ hlt hroom => absurd hlt (Nat.not_lt.mpr (h hroom)) }

/-- What items come to from nothing on. -/
theorem addAll_zero_adds (is : List Item) :
    Duration.Adds .zero (total is) (∃ i ∈ is, ¬ i.HasRoom) (Overruns 0 is) (addAll is .zero) :=
  Duration.addAll_adds is Duration.normal_zero

/-- **What was added up exactly, or refused as too large**, is a timeout unless it is zero. -/
theorem readsSum_of_goesOn {is : List Item} (h : ¬ Overruns 0 is) :
    ReadsSum is (ofSum (addAll is .zero)) := by
  have hadds := addAll_zero_adds is
  cases hd : addAll is .zero with
  | ok d =>
    rw [hd] at hadds
    cases hadds with
    | sum normal length goesOn =>
      exact readsSum_ofDuration normal (length.trans (Nat.zero_add _))
  | error f =>
    rw [hd] at hadds
    cases hadds with
    | stopped hover => exact absurd hover h
    | tooLarge hlarge =>
      refine readsSum_tooLarge fun hroom => ?_
      obtain ⟨i, hi, hnot⟩ | ⟨hlimit, -⟩ := hlarge
      · exact absurd (hroom i hi) hnot
      · exact Nat.le_trans hlimit (Nat.le_of_eq (Nat.zero_add _))

/-- **Where an item overruns, nothing is accepted**: with room for every item the program stops. -/
theorem ofSum_of_overruns {is : List Item} (h : Overruns 0 is) :
    (ofSum (addAll is .zero) = .error .stopped ∨
      ofSum (addAll is .zero) = .error (.invalid .tooLarge)) ∧
        ((∀ i ∈ is, i.HasRoom) → ofSum (addAll is .zero) = .error .stopped) := by
  have hadds := addAll_zero_adds is
  cases hd : addAll is .zero with
  | ok d =>
    rw [hd] at hadds
    cases hadds with
    | sum normal length goesOn => exact absurd h goesOn
  | error f =>
    rw [hd] at hadds
    cases hadds with
    | stopped hover => exact ⟨.inl rfl, fun _ => rfl⟩
    | tooLarge hlarge =>
      refine ⟨.inr rfl, fun hroom => ?_⟩
      obtain ⟨i, hi, hnot⟩ | ⟨-, hgoes⟩ := hlarge
      · exact absurd (hroom i hi) hnot
      · exact absurd h hgoes

theorem total_seconds (n : Nat) : total [⟨n, .second⟩] = Duration.toNanos ⟨n, 0⟩ := by
  rw [Duration.toNanos_seconds]
  change n * (1 * Duration.perSecond) + 0 = _
  rw [Nat.one_mul, Nat.add_zero]

/-- One item of seconds comes to so many seconds. -/
theorem ReadsSum.seconds {n : Nat} (hn : n ≤ Word.max64) {r : Except Fault RequestTimeout}
    (h : ReadsSum [⟨n, .second⟩] r) (hnormal : ∀ t, r = .ok t → Normal t.duration) :
    Seconds n r := by
  have hseconds := Duration.normal_seconds hn
  have htotal := total_seconds n
  refine ⟨?_, fun hpos => ?_⟩
  · rintro rfl
    exact h.zero.mpr (htotal.trans (Duration.toNanos_eq_zero_iff.mpr rfl))
  · have hroom : ∀ i ∈ [(⟨n, .second⟩ : Item)], i.HasRoom := by
      intro i hi
      rw [List.mem_singleton.mp hi]
      exact Item.hasRoom_of_seconds rfl
    have htotal_pos : 0 < total [⟨n, .second⟩] := by
      rw [htotal, Duration.toNanos_seconds]
      exact Nat.mul_pos hpos (by decide)
    have htotal_lt : total [⟨n, .second⟩] < Duration.limit := by
      rw [htotal]
      exact hseconds.toNanos_lt
    obtain ⟨t, ht⟩ := h.fits htotal_pos htotal_lt hroom
    exact ⟨t, ht, (hnormal t ht).eq_of_toNanos hseconds ((h.sum t ht).trans htotal)⟩

/-! ## 2. Texts -/

/-- The digits of a number behind so many zeros. -/
def padded (zeros n : Nat) : List Char := List.replicate zeros '0' ++ Text.decimal n

/-- A plus, or nothing. -/
def plusText (plus : Bool) : List Char := if plus then ['+'] else []

theorem isDigit_of_mem_padded {zeros n : Nat} {c : Char} (h : c ∈ padded zeros n) :
    c.isDigit = true := by
  rcases List.mem_append.mp h with h | h
  · rw [List.eq_of_mem_replicate h]
    rfl
  · exact Text.isDigit_of_mem_decimal h

theorem ofDigitChars_padded (zeros n : Nat) : Nat.ofDigitChars 10 (padded zeros n) 0 = n := by
  rw [padded, Text.ofDigitChars_replicate_zero, Text.decimal,
    Nat.ofDigitChars_toDigits (by decide) (by decide)]

theorem exists_padded_eq_cons (zeros n : Nat) :
    ∃ c cs, padded zeros n = c :: cs ∧ c.isDigit = true := by
  have hne : padded zeros n ≠ [] :=
    List.append_ne_nil_of_right_ne_nil _ (Text.decimal_ne_nil n)
  obtain ⟨c, cs, h⟩ := List.exists_cons_of_ne_nil hne
  exact ⟨c, cs, h, isDigit_of_mem_padded (h ▸ List.mem_cons_self ..)⟩

/-- Zeros in front or none, it is a number. -/
theorem numberText_padded (zeros n : Nat) : NumberText (padded zeros n) n := by
  have hdigits : ∀ c ∈ padded zeros n, c.isDigit = true := fun c => isDigit_of_mem_padded
  have hvalue := ofDigitChars_padded zeros n
  obtain ⟨c, cs, h, hc⟩ := exists_padded_eq_cons zeros n
  rw [h] at hdigits hvalue ⊢
  have htext := NumberText.digits hc fun d hd => .inl (hdigits d (List.mem_cons_of_mem _ hd))
  rwa [List.filter_eq_self.mpr hdigits, hvalue] at htext

theorem le_of_seconds? {cs : List Char} {n : Nat} (h : seconds? cs = some n) : n ≤ Word.max64 := by
  have hcount : ∀ ds, (if ds = [] then none
      else (Text.numeral? 10 ds).bind fun n => if n ≤ Word.max64 then some n else none) = some n →
      n ≤ Word.max64 := by
    intro ds h
    split at h
    · cases h
    obtain ⟨m, -, h⟩ := Option.bind_eq_some_iff.mp h
    split at h
    · cases h
      assumption
    · cases h
  exact hcount _ h

/-- Digits are read as a count that 64 bits hold, -/
theorem seconds?_of_isDigit {c : Char} (hc : c.isDigit = true) (cs : List Char) :
    seconds? (c :: cs) =
      (Text.numeral? 10 (c :: cs)).bind fun n => if n ≤ Word.max64 then some n else none := by
  rw [seconds?, if_neg (List.cons_ne_nil c cs)]
  rintro r ⟨⟩
  cases hc

/-- and a plus in front of them makes no difference. -/
theorem seconds?_plus {c : Char} (hc : c.isDigit = true) (cs : List Char) :
    seconds? ('+' :: c :: cs) = seconds? (c :: cs) := by
  rw [seconds?_of_isDigit hc, seconds?, if_neg (List.cons_ne_nil c cs)]

theorem seconds?_bare (plus : Bool) (zeros n : Nat) :
    seconds? (plusText plus ++ padded zeros n) = if n ≤ Word.max64 then some n else none := by
  have hnumeral : Text.numeral? 10 (padded zeros n) = some n := by
    rw [Text.numeral?_eq_ofDigitChars fun c => isDigit_of_mem_padded, ofDigitChars_padded]
  obtain ⟨c, cs, h, hc⟩ := exists_padded_eq_cons zeros n
  rw [h] at hnumeral ⊢
  have hsigned : seconds? (plusText plus ++ c :: cs) = seconds? (c :: cs) := by
    cases plus with
    | true => exact seconds?_plus hc cs
    | false => rfl
  rw [hsigned, seconds?_of_isDigit hc, hnumeral, Option.bind_some]

/-- A text of items is no bare number. -/
theorem seconds?_items {text : List Char} {is : List Item} (h : ItemsText text is) :
    seconds? text = none := by
  obtain ⟨c, cs, rfl, hc⟩ := h.first
  have hnot : Text.numeral? 10 (c :: cs) = none := by
    rw [Option.eq_none_iff_forall_ne_some]
    intro n hn
    have hmem := List.getLast_mem (List.cons_ne_nil c cs)
    have hletter := h.last (List.getLast?_eq_some_getLast (List.cons_ne_nil c cs))
    rw [Duration.isUnitLetter_of_isDigit (Text.isDigit_of_numeral? hn _ hmem)] at hletter
    cases hletter
  rw [seconds?_of_isDigit hc, hnot]
  rfl

/-- **A timeout that a text gives has seconds of 64 bits and nanoseconds below one second.** -/
theorem normal_of_read {s : String} {t : RequestTimeout} (h : read s = .ok t) :
    Normal t.duration := by
  rw [read] at h
  split at h
  · rename_i n hn
    rw [duration_of_ofDuration h]
    exact Duration.normal_seconds (le_of_seconds? hn)
  · split at h
    · rename_i d hd
      rw [duration_of_ofDuration h]
      exact Duration.normal_of_ofChars hd
    · cases h

section Read

variable {front back : List Char} (hfront : ∀ c ∈ front, isBlank c = true)
  (hback : ∀ c ∈ back, isBlank c = true)

include hfront hback

/-- **A bare number is a count of seconds**, when 64 bits hold it; otherwise there is no timeout. -/
theorem read_bare (plus : Bool) (zeros n : Nat) :
    read (String.ofList (front ++ (plusText plus ++ padded zeros n) ++ back)) =
      if n ≤ Word.max64 then ofSeconds n
      else .error (.invalid (if plus then .numberExpected 0 else .tooLarge)) := by
  have hblank : ∀ c ∈ plusText plus ++ padded zeros n, isBlank c = false := by
    intro c hc
    rcases List.mem_append.mp hc with hc | hc
    · cases plus with
      | true =>
        rw [List.mem_singleton.mp hc]
        rfl
      | false => cases hc
    · exact Text.isBlank_of_isDigit (isDigit_of_mem_padded hc)
  have htrim := Text.trimChars_surrounded hfront hback
    (fun c hc => hblank c (List.mem_of_head? hc)) fun c hc => hblank c (List.mem_of_getLast? hc)
  rw [read, String.toList_ofList, htrim, seconds?_bare]
  obtain hlarge | hfits := Nat.lt_or_ge Word.max64 n
  · rw [if_neg (Nat.not_le.mpr hlarge), if_neg (Nat.not_le.mpr hlarge)]
    cases plus with
    | true => rfl
    | false =>
      rw [plusText, if_neg Bool.false_ne_true, List.nil_append,
        Duration.ofChars_of_large (numberText_padded zeros n) hlarge]
      rfl
  · rw [if_pos hfits, if_pos hfits]

/-- **A text of items is read as what they come to.** -/
theorem read_items {text : List Char} {is : List Item} (h : ItemsText text is) :
    read (String.ofList (front ++ text ++ back)) = ofSum (addAll is .zero) := by
  rw [read, String.toList_ofList, h.trimmed hfront hback, seconds?_items h]
  dsimp only
  rw [Duration.ofChars_items h]
  cases addAll is .zero <;> rfl

/-- **A number of seconds with their unit is read as so many seconds.** -/
theorem seconds_read_unit {n : Nat} (hn : n ≤ Word.max64) (zeros : Nat) :
    Seconds n (read (String.ofList (front ++ (padded zeros n ++ ['s']) ++ back))) := by
  have htext : ItemsText (padded zeros n ++ "s".toList) [⟨n, .second⟩] :=
    .one (.counted (numberText_padded zeros n) (by decide))
  have hgoes : ¬ Overruns 0 [⟨n, .second⟩] := by
    refine Duration.not_overruns_of_lt ?_
    rw [total_seconds]
    exact (Duration.normal_seconds hn).toNanos_lt
  have hsum := readsSum_of_goesOn hgoes
  rw [← read_items hfront hback htext] at hsum
  exact hsum.seconds hn fun t => normal_of_read

end Read

/-! ## 3. Every way to write a timeout -/

/-- A file gives a timeout as a text, or as a count of seconds. -/
theorem timeout_eq_ok {key : String} {v : Toml} {t : RequestTimeout}
    (h : Layer.timeout key v = .ok t) :
    (∃ s, v = .string s ∧ read s = .ok t) ∨ ∃ n : Nat, v = .integer n ∧ t.duration = ⟨n, 0⟩ := by
  cases v with
  | string s => exact .inl ⟨s, rfl, mapError_eq_ok h⟩
  | integer n =>
    rw [Layer.timeout] at h
    split at h
    · cases h
    · rename_i hn
      obtain ⟨k, rfl⟩ := Int.eq_ofNat_of_zero_le (Int.not_lt.mp hn)
      exact .inr ⟨k, rfl, duration_of_ofDuration (mapError_eq_ok h)⟩
  | boolean _ => cases h
  | float _ => cases h
  | datetime _ => cases h
  | array _ => cases h
  | table _ => cases h
  | unreadable => cases h

/-- **Timeouts are exact.** No text and no value of a file is accepted as a timeout of no length. A
    whole number of seconds below 2 ^ 63 is read alike as an integer of a file, as a bare number
    with zeros or a plus in front, and with the unit behind it, blanks around or none. A bare number
    of 2 ^ 64 or more is refused as invalid. A text of items is read as their exact sum, or it is
    refused, provided that no item overruns; and where one does, nothing is accepted, but with room
    for every item the program stops instead of refusing the text. -/
theorem timeouts_are_exact {front back : List Char} (hfront : ∀ c ∈ front, isBlank c = true)
    (hback : ∀ c ∈ back, isBlank c = true) (key : String) :
    (∀ s t, read s = .ok t → 0 < t.duration.toNanos ∧ Normal t.duration) ∧
    (∀ v t, Layer.timeout key v = .ok t → 0 < t.duration.toNanos ∧
      ((∃ s, v = .string s ∧ read s = .ok t) ∨ ∃ n : Nat, v = .integer n ∧ t.duration = ⟨n, 0⟩)) ∧
    (∀ s, Layer.timeout key (.string s) = (read s).mapError Layer.timeoutError) ∧
    (∀ n < 2 ^ 63, ∃ r, Seconds n r ∧
      Layer.timeout key (.integer n) = r.mapError Layer.timeoutError ∧
      (∀ plus zeros,
        read (String.ofList (front ++ (plusText plus ++ padded zeros n) ++ back)) = r) ∧
      ∀ zeros, read (String.ofList (front ++ (padded zeros n ++ ['s']) ++ back)) = r) ∧
    (∀ n, 2 ^ 64 ≤ n → ∀ plus zeros, ∃ cause,
      read (String.ofList (front ++ (plusText plus ++ padded zeros n) ++ back)) =
        .error (.invalid cause)) ∧
    (∀ text is, ItemsText text is → ¬ Overruns 0 is →
      ReadsSum is (read (String.ofList (front ++ text ++ back)))) ∧
    ∀ text is, ItemsText text is → Overruns 0 is →
      (read (String.ofList (front ++ text ++ back)) = .error .stopped ∨
        read (String.ofList (front ++ text ++ back)) = .error (.invalid .tooLarge)) ∧
      ((∀ i ∈ is, i.HasRoom) →
        read (String.ofList (front ++ text ++ back)) = .error .stopped) := by
  refine ⟨fun s t h => ⟨t.toNanos_pos, normal_of_read h⟩,
    fun v t h => ⟨t.toNanos_pos, timeout_eq_ok h⟩, fun s => rfl, fun n hn => ?whole,
    fun n hn plus zeros => ?large, fun text is htext hgoes => ?sum, fun text is htext hover => ?stop⟩
  case whole =>
    have hfits : n ≤ Word.max64 := by
      simp only [Word.max64]
      omega
    refine ⟨ofSeconds n, seconds_ofSeconds n, ?_, fun plus zeros => ?_, fun zeros => ?_⟩
    · rw [Layer.timeout, if_neg (by omega), Int.toNat_natCast]
    · rw [read_bare hfront hback, if_pos hfits]
    · exact (seconds_read_unit hfront hback hfits zeros).eq (seconds_ofSeconds n)
  case large =>
    have hover : ¬ n ≤ Word.max64 := by
      simp only [Word.max64]
      omega
    exact ⟨_, by rw [read_bare hfront hback, if_neg hover]⟩
  case sum =>
    rw [read_items hfront hback htext]
    exact readsSum_of_goesOn hgoes
  case stop =>
    rw [read_items hfront hback htext]
    exact ofSum_of_overruns hover

/-- Items of two units, a bare number with a plus and zeros, and one that is too large. -/
theorem timeouts_are_exact_hour_and_a_half :
    (∃ t, read " 1h 30min\n" = .ok t ∧ t.duration = ⟨5400, 0⟩ ∧ 0 < t.duration.toNanos) ∧
    (∃ t, read " +0090\n" = .ok t ∧ t.duration = ⟨90, 0⟩ ∧
      Layer.timeout "request-timeout" (.integer 90) = .ok t) ∧
    ∃ cause, read " 18446744073709551616\n" = .error (.invalid cause) := by
  have hfront : ∀ c ∈ [' '], isBlank c = true := List.forall_mem_singleton.mpr rfl
  have hback : ∀ c ∈ ['\n'], isBlank c = true := List.forall_mem_singleton.mpr rfl
  obtain ⟨htext, -, -, hwhole, hlarge, hitems, -⟩ :=
    timeouts_are_exact hfront hback "request-timeout"
  refine ⟨?items, ?whole, ?large⟩
  case items =>
    have hhour : ItemText ("1".toList ++ "h".toList) ⟨1, .hour⟩ :=
      .counted (numberText_padded 0 1) (by decide)
    have hminutes : ItemText ("30".toList ++ "min".toList) ⟨30, .minute⟩ :=
      .counted (numberText_padded 0 30) (by decide)
    have hsum := hitems _ _ (.more hhour hfront (.one hminutes))
      (Duration.not_overruns_of_lt (by decide))
    have hroom : ∀ i ∈ [(⟨1, .hour⟩ : Item), ⟨30, .minute⟩], i.HasRoom := by
      intro i hi
      rcases List.mem_pair.mp hi with rfl | rfl
      · exact Item.hasRoom_of_seconds (n := 3600) rfl
      · exact Item.hasRoom_of_seconds (n := 60) rfl
    obtain ⟨t, ht⟩ := hsum.fits (by decide) (by decide) hroom
    have hread : read " 1h 30min\n" = .ok t := ht
    obtain ⟨hpos, hnormal⟩ := htext _ _ hread
    exact ⟨t, hread, hnormal.eq_of_toNanos (Duration.normal_seconds (by decide)) (hsum.sum t ht),
      hpos⟩
  case whole =>
    obtain ⟨r, hseconds, hinteger, hbare, -⟩ := hwhole 90 (by decide)
    obtain ⟨t, rfl, ht⟩ := hseconds.exact (by decide)
    exact ⟨t, hbare true 2, ht, hinteger⟩
  case large => exact hlarge (2 ^ 64) (by decide) false 0

/-- **The last second cannot be filled up**: these two items come to 2 ^ 64 seconds, which no
    duration can hold; but the text is not refused as too large, it stops the program. -/
theorem last_second_stops :
    let is : List Item := [⟨2 ^ 64 - 1, .second⟩, ⟨Duration.perSecond, .nanosecond⟩]
    let text := "18446744073709551615s 1000000000ns"
    ItemsText text.toList is ∧ Duration.limit ≤ total is ∧ read text = .error .stopped ∧
      ¬ ReadsSum is (read text) := by
  intro is text
  have hblank : ∀ c ∈ [' '], isBlank c = true := List.forall_mem_singleton.mpr rfl
  have hseconds : ItemText ("18446744073709551615".toList ++ "s".toList) ⟨2 ^ 64 - 1, .second⟩ :=
    .counted (numberText_padded 0 18446744073709551615) (by decide)
  have hnanos : ItemText ("1000000000".toList ++ "ns".toList)
      ⟨Duration.perSecond, .nanosecond⟩ :=
    .counted (numberText_padded 0 1000000000) (by decide)
  have htext : text.toList =
      "18446744073709551615".toList ++ "s".toList ++ [' '] ++
        ("1000000000".toList ++ "ns".toList) := by decide +kernel
  have hitems : ItemsText text.toList is := by
    rw [htext]
    exact .more hseconds hblank (.one hnanos)
  have hlimit : Duration.limit ≤ total is := by decide
  have hread : read text = .error .stopped := by decide +kernel
  refine ⟨hitems, hlimit, hread, fun h => ?_⟩
  have hrefused := h.large hlimit
  rw [hread] at hrefused
  cases hrefused

end DaprHosting.RequestTimeout
