import DaprHosting.Duration
import Mathlib.Algebra.Ring.Nat

/-!
# Exact sums

A duration that is added to comes out as the exact sum, or it does not come out (`Adds`). It is
refused for two reasons: the sum is not below 2 ^ 64 seconds, or an item is counted in nanoseconds
and 64 bits do not hold them with a second to spare (`Item.HasRoom`). The first is what no duration
can hold; the second comes from counting in words of 64 bits. And one sum of exactly 2 ^ 64 seconds
is not refused but stops the program: that of an item of at most a second, counted in nanoseconds,
which makes the last second full (`Item.Fills`).
-/

namespace DaprHosting.Duration

/-! ## 1. Lengths -/

/-- **Seconds of 64 bits, and nanoseconds below one second.** -/
structure Normal (d : Duration) : Prop where
  seconds : d.seconds ≤ Word.max64
  nanos : d.nanos < perSecond

/-- The nanoseconds of 2 ^ 64 seconds, the first length that is too large. -/
def limit : Nat := 2 ^ 64 * perSecond

/-- Whole seconds of 64 bits. -/
theorem normal_seconds {n : Nat} (h : n ≤ Word.max64) : Normal ⟨n, 0⟩ :=
  ⟨h, (by decide : 0 < perSecond)⟩

theorem normal_zero : Normal zero := normal_seconds (Nat.zero_le _)

theorem toNanos_seconds (n : Nat) : toNanos ⟨n, 0⟩ = n * perSecond := Nat.add_zero _

theorem toNanos_eq_zero_iff {d : Duration} : d.toNanos = 0 ↔ d = zero := by
  obtain ⟨seconds, nanos⟩ := d
  simp only [toNanos, perSecond, zero, Duration.mk.injEq]
  omega

theorem Normal.toNanos_lt {d : Duration} (h : Normal d) : d.toNanos < limit := by
  obtain ⟨hseconds, hnanos⟩ := h
  simp only [toNanos, limit, Word.max64, perSecond] at *
  omega

/-- **A duration is known by its length.** -/
theorem Normal.eq_of_toNanos {d d' : Duration} (h : Normal d) (h' : Normal d')
    (hlen : d.toNanos = d'.toNanos) : d = d' := by
  obtain ⟨seconds, nanos⟩ := d
  obtain ⟨seconds', nanos'⟩ := d'
  have hnanos := h.nanos
  have hnanos' := h'.nanos
  simp only [toNanos, perSecond, Duration.mk.injEq] at hlen hnanos hnanos' ⊢
  omega

/-! ## 2. Adding -/

/-- **The outcome of adding so many nanoseconds**: exactly the sum, or the refusal of one that is
    too large or `tight`, or the stop of the program where the sum `stops` it. -/
inductive Adds (d : Duration) (n : Nat) (tight stops : Prop) : Except Fault Duration → Prop where
  | sum {d' : Duration} (normal : Normal d') (length : d'.toNanos = d.toNanos + n)
      (goesOn : ¬ stops) : Adds d n tight stops (.ok d')
  | tooLarge (h : tight ∨ limit ≤ d.toNanos + n ∧ ¬ stops) :
      Adds d n tight stops (.error .tooLarge)
  | stopped (h : stops) : Adds d n tight stops (.error .stopped)

theorem Adds.mono {d : Duration} {n : Nat} {s t stops stops' : Prop} {r : Except Fault Duration}
    (hst : s → t) (hstops : stops ↔ stops') (h : Adds d n s stops r) : Adds d n t stops' r := by
  cases h with
  | sum normal length goesOn => exact .sum normal length (mt hstops.mpr goesOn)
  | tooLarge h => exact .tooLarge (h.imp hst fun h => ⟨h.1, mt hstops.mpr h.2⟩)
  | stopped h => exact .stopped (hstops.mp h)

theorem fit_of_le {n : Nat} (h : n ≤ Word.max64) : fit n = .ok n := if_pos h

theorem fit_of_lt {n : Nat} (h : Word.max64 < n) : fit n = .error .tooLarge :=
  if_neg (Nat.not_le.mpr h)

/-- A number that does not fit must be one of the reasons. -/
theorem Adds.fit {d : Duration} {m n : Nat} {t stops : Prop} {k : Nat → Except Fault Duration}
    (hfits : n ≤ Word.max64 → Adds d m t stops (k n))
    (htoo : Word.max64 < n → t ∨ limit ≤ d.toNanos + m ∧ ¬ stops) :
    Adds d m t stops (Duration.fit n >>= k) := by
  obtain h | h := Nat.lt_or_ge Word.max64 n
  · rw [fit_of_lt h]
    exact .tooLarge (htoo h)
  · rw [fit_of_le h]
    exact hfits h

/-- Nanoseconds below a second leave the seconds as they are. -/
theorem ofParts_of_lt (seconds : Nat) {nanos : Nat} (h : nanos < perSecond) :
    ofParts seconds nanos = .ok ⟨seconds, nanos⟩ := if_pos h

/-- A second of them is carried over where there is room, and else the program stops. -/
theorem ofParts_second (seconds : Nat) :
    ofParts seconds perSecond =
      if seconds + 1 ≤ Word.max64 then .ok ⟨seconds + 1, 0⟩ else .error .stopped :=
  if_neg (Nat.lt_irrefl perSecond)

/-- **Nanoseconds up to a second stop the program** exactly when they fill up the last one. -/
theorem ofParts_adds {d : Duration} (hd : Normal d) {n : Nat} (h : d.nanos + n ≤ perSecond) :
    Adds d n False (n ≤ perSecond ∧ 0 < n ∧ d.toNanos + n = limit)
      (ofParts d.seconds (d.nanos + n)) := by
  have hseconds := hd.seconds
  have hnanos := hd.nanos
  obtain hlt | heq := Nat.lt_or_eq_of_le h
  · rw [ofParts_of_lt _ hlt]
    refine .sum ⟨hseconds, hlt⟩ (by simp only [toNanos]; omega) ?_
    simp only [Word.max64, limit, toNanos, perSecond] at hlt hseconds ⊢
    omega
  · rw [heq, ofParts_second]
    obtain hfits | hfull := Nat.lt_or_ge d.seconds Word.max64
    · rw [if_pos (Nat.succ_le_of_lt hfits)]
      refine .sum (normal_seconds hfits) ?_ ?_
      · simp only [toNanos, perSecond] at heq ⊢
        omega
      · simp only [Word.max64, limit, toNanos, perSecond] at heq hfits ⊢
        omega
    · rw [if_neg (by omega)]
      refine .stopped ?_
      simp only [Word.max64, limit, toNanos, perSecond] at heq hseconds hfull hnanos ⊢
      omega

/-- **Nanoseconds carry over into seconds.** -/
theorem addNanos_adds {d : Duration} (hd : Normal d) (n : Nat) :
    Adds d n (2 ^ 64 < n + perSecond) (n ≤ perSecond ∧ 0 < n ∧ d.toNanos + n = limit)
      (d.addNanos n) := by
  have hseconds := hd.seconds
  have hnanos := hd.nanos
  -- too many nanoseconds are a matter of room, too many seconds after the carry are not
  refine .fit (fun hn => .fit (fun htotal => ?total) ?room) ?nanos
  case nanos =>
    intro hover
    left
    simp only [Word.max64, perSecond] at hover ⊢
    omega
  case room =>
    intro hover
    left
    simp only [Word.max64, perSecond] at hover hnanos ⊢
    omega
  case total =>
    obtain hcarry | hle := Nat.lt_or_ge perSecond (d.nanos + n)
    · -- what is left of the nanoseconds is below a second, so nothing stops here
      rw [if_pos hcarry]
      refine .fit (fun hfits => ?_) fun hover => .inr ?_
      · rw [ofParts_of_lt _ (Nat.mod_lt _ (by decide))]
        refine .sum ⟨hfits, Nat.mod_lt _ (by decide)⟩ ?_ ?_
        · simp only [toNanos, perSecond]
          omega
        · simp only [Word.max64, limit, toNanos, perSecond] at hfits hnanos hcarry ⊢
          omega
      · simp only [Word.max64, limit, toNanos, perSecond] at hover hnanos hseconds hcarry ⊢
        omega
    · rw [if_neg (Nat.not_lt.mpr hle)]
      exact (ofParts_adds hd hle).mono False.elim Iff.rfl

/-- Seconds leave the nanoseconds as they are, and stop nothing. -/
theorem addSeconds_adds {d : Duration} (hd : Normal d) (n : Nat) :
    Adds d (n * perSecond) False False (d.addSeconds n) := by
  have htoo : Word.max64 < d.seconds + n →
      False ∨ limit ≤ d.toNanos + n * perSecond ∧ ¬ False := by
    intro hover
    refine .inr ⟨?_, not_false⟩
    simp only [Word.max64, limit, toNanos, perSecond] at hover ⊢
    omega
  refine .fit (fun hn => .fit (fun htotal => ?_) htoo) fun hover => htoo (by omega)
  refine .sum ⟨htotal, hd.nanos⟩ ?_ not_false
  simp only [toNanos, perSecond]
  omega

/-! ## 3. Items -/

/-- The length of a unit in nanoseconds. -/
def TimeUnit.toNanos (u : TimeUnit) : Nat :=
  match u.length with
  | .inl nanos => nanos
  | .inr seconds => seconds * perSecond

/-- Every unit has a length. -/
theorem TimeUnit.length_pos (u : TimeUnit) : 0 < u.length.elim id id := by cases u <;> decide

/-- A count of a unit. -/
structure Item where
  count : Nat
  unit : TimeUnit
deriving DecidableEq, Repr

namespace Item

/-- The length of an item in nanoseconds. -/
def toNanos (i : Item) : Nat := i.count * i.unit.toNanos

/-- There is room for the item: what is counted in nanoseconds fits 64 bits with a second to
    spare. -/
def HasRoom (i : Item) : Prop :=
  ∀ nanos, i.unit.length = .inl nanos → i.count * nanos + perSecond ≤ 2 ^ 64

/-- The item fills up the last second behind so many nanoseconds: it is counted in nanoseconds, is
    no longer than a second, and ends exactly at the limit. -/
def Fills (i : Item) (before : Nat) : Prop :=
  (∃ nanos, i.unit.length = .inl nanos) ∧
    i.toNanos ≤ perSecond ∧ 0 < i.toNanos ∧ before + i.toNanos = limit

/-- A duration and one item more, when 64 bits hold the count. -/
def addTo (i : Item) (d : Duration) : Except Fault Duration := do
  let n ← fit i.count
  d.add (i.unit.length.map (n * ·) (n * ·))

/-- **An item is added exactly, or refused**, or it stops the program. -/
theorem addTo_adds (i : Item) {d : Duration} (hd : Normal d) :
    Adds d i.toNanos (¬ i.HasRoom) (i.Fills d.toNanos) (i.addTo d) := by
  obtain ⟨n, u⟩ := i
  rw [addTo, HasRoom, Fills, toNanos, TimeUnit.toNanos]
  -- no unit is shorter than one, so a count that does not fit is too large for any
  have hpos := u.length_pos
  cases hu : u.length with
  | inl k =>
    rw [hu] at hpos
    have hgrows : n ≤ n * k := Nat.le_mul_of_pos_right n hpos
    have hroom : 2 ^ 64 < n * k + perSecond →
        ¬ ∀ nanos, Sum.inl (β := Nat) k = .inl nanos → n * nanos + perSecond ≤ 2 ^ 64 :=
      fun htight h => Nat.not_le.mpr htight (h k rfl)
    have hcounted : ∃ nanos, Sum.inl (β := Nat) k = .inl nanos := ⟨k, rfl⟩
    refine .fit (fun _ => (addNanos_adds hd (n * k)).mono hroom
      (and_iff_right hcounted).symm) fun hover => .inl (hroom ?_)
    simp only [Word.max64, perSecond] at hover ⊢
    omega
  | inr k =>
    rw [hu] at hpos
    have hgrows : n ≤ n * k := Nat.le_mul_of_pos_right n hpos
    have huncounted : ¬ ((∃ nanos, Sum.inr (α := Nat) k = .inl nanos) ∧
        n * (k * perSecond) ≤ perSecond ∧ 0 < n * (k * perSecond) ∧
          d.toNanos + n * (k * perSecond) = limit) := by
      rintro ⟨⟨_, ⟨⟩⟩, -⟩
    dsimp only at huncounted ⊢
    rw [← Nat.mul_assoc] at huncounted ⊢
    refine .fit (fun _ => (addSeconds_adds hd (n * k)).mono False.elim
      (iff_of_false not_false huncounted)) fun hover => .inr ⟨?_, huncounted⟩
    simp only [Word.max64, limit, perSecond] at hover ⊢
    omega

/-- What is counted in seconds always has room, -/
theorem hasRoom_of_seconds {i : Item} {n : Nat} (h : i.unit.length = .inr n) : i.HasRoom := by
  intro nanos hlength
  rw [h] at hlength
  cases hlength

/-- and so has what has no length. -/
theorem hasRoom_of_toNanos {i : Item} (h : i.toNanos = 0) : i.HasRoom := by
  intro nanos hlength
  rw [toNanos, TimeUnit.toNanos, hlength] at h
  change i.count * nanos = 0 at h
  rw [h]
  decide

end Item

/-! ## 4. Items in a row -/

/-- The length of the items together, in nanoseconds. -/
def total (is : List Item) : Nat := (is.map Item.toNanos).sum

theorem total_cons (i : Item) (is : List Item) : total (i :: is) = i.toNanos + total is := by
  rw [total, List.map_cons, List.sum_cons]
  rfl

/-- Items of no length have room. -/
theorem hasRoom_of_total {is : List Item} (h : total is = 0) : ∀ i ∈ is, i.HasRoom := by
  induction is with
  | nil => nofun
  | cons i is ih =>
    rw [total_cons, Nat.add_eq_zero_iff] at h
    exact List.forall_mem_cons.mpr ⟨Item.hasRoom_of_toNanos h.1, ih h.2⟩

/-- **Some item overruns**: it fills up the last second behind what comes before it. -/
def Overruns : Nat → List Item → Prop
  | _, [] => False
  | before, i :: is => i.Fills before ∨ Overruns (before + i.toNanos) is

/-- Until then the limit is not reached, -/
theorem lt_limit_of_overruns {before : Nat} {is : List Item} (h : Overruns before is) :
    before < limit := by
  induction is generalizing before with
  | nil => cases h
  | cons i is ih =>
    obtain ⟨-, -, hpos, hlimit⟩ | h := h
    · omega
    · exact Nat.lt_of_le_of_lt (Nat.le_add_right ..) (ih h)

/-- and all together are too long. -/
theorem limit_le_of_overruns {before : Nat} {is : List Item} (h : Overruns before is) :
    limit ≤ before + total is := by
  induction is generalizing before with
  | nil => cases h
  | cons i is ih =>
    rw [total_cons]
    obtain ⟨-, -, -, hlimit⟩ | h := h
    · omega
    · rw [← Nat.add_assoc]
      exact ih h

/-- So what fits does not overrun. -/
theorem not_overruns_of_lt {is : List Item} (h : total is < limit) : ¬ Overruns 0 is := by
  intro hover
  have hlimit := limit_le_of_overruns hover
  omega

/-- A duration and items more, one after the other. -/
def addAll (is : List Item) (d : Duration) : Except Fault Duration :=
  is.foldlM (fun d i => i.addTo d) d

/-- **Items are added exactly, or refused**, or one of them overruns. The induction is on the items;
    what has been added so far is the exact sum of those before. -/
theorem addAll_adds (is : List Item) {d : Duration} (hd : Normal d) :
    Adds d (total is) (∃ i ∈ is, ¬ i.HasRoom) (Overruns d.toNanos is) (addAll is d) := by
  induction is generalizing d with
  | nil => exact .sum hd (Nat.add_zero _).symm not_false
  | cons i is ih =>
    have hfirst := i.addTo_adds hd
    rw [addAll, List.foldlM_cons, total_cons, Overruns]
    cases hadd : i.addTo d with
    | ok d' =>
      rw [hadd] at hfirst
      cases hfirst with
      | sum normal length goesOn =>
        have hrest := ih normal
        rw [length] at hrest
        change Adds _ _ _ _ (addAll is d')
        cases hall : addAll is d' with
        | ok d'' =>
          rw [hall] at hrest
          cases hrest with
          | sum normal' length' goesOn' =>
            exact .sum normal' (by omega) (not_or.mpr ⟨goesOn, goesOn'⟩)
        | error f =>
          rw [hall] at hrest
          cases hrest with
          | tooLarge h =>
            refine .tooLarge (h.imp ?_ fun h => ⟨by omega, not_or.mpr ⟨goesOn, h.2⟩⟩)
            exact fun ⟨j, hj, hnot⟩ => ⟨j, List.mem_cons_of_mem _ hj, hnot⟩
          | stopped h => exact .stopped (.inr h)
    | error f =>
      rw [hadd] at hfirst
      cases hfirst with
      | tooLarge h =>
        refine .tooLarge (h.imp (fun hnot => ⟨i, List.mem_cons_self .., hnot⟩) ?_)
        -- what is too large already has no second left to be filled
        rintro ⟨hlimit, hnot⟩
        refine ⟨by omega, not_or.mpr ⟨hnot, fun h => ?_⟩⟩
        exact absurd (lt_limit_of_overruns h) (Nat.not_lt.mpr hlimit)
      | stopped h => exact .stopped (.inl h)

end DaprHosting.Duration
