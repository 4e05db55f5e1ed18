import DaprHosting.Proofs.Lists
import DaprHosting.Text.Blank
import Mathlib.Data.List.TakeWhile

/-!
# What is left of a text

A text that was trimmed begins and ends with a character that is not blank, or nothing is left of
it. `nonBlank?_eq_none_iff` says when nothing is left: every character was blank.
-/

namespace DaprHosting.Text

/-- **Something is said, with no blanks around it.** -/
structure Trimmed (s : String) : Prop where
  nonempty : s ≠ ""
  front : ∀ c, s.toList.head? = some c → isBlank c = false
  back : ∀ c, s.toList.getLast? = some c → isBlank c = false

/-- Blank characters stand below the signs of ASCII or above them all. -/
theorem bounds_of_isBlank {c : Char} (h : isBlank c = true) : c.toNat ≤ 32 ∨ 133 ≤ c.toNat := by
  simp [isBlank, blankRanges] at h
  omega

/-- A blank character is no digit. -/
theorem isDigit_of_isBlank {c : Char} (h : isBlank c = true) : c.isDigit = false := by
  rw [← Bool.not_eq_true]
  intro hdigit
  have hbounds : 48 ≤ c.toNat ∧ c.toNat ≤ 57 := by
    simpa [Char.isDigit, UInt32.le_iff_toNat_le] using hdigit
  have houtside := bounds_of_isBlank h
  omega

theorem isBlank_of_isDigit {c : Char} (h : c.isDigit = true) : isBlank c = false := by
  rw [← Bool.not_eq_true]
  intro hblank
  rw [isDigit_of_isBlank hblank] at h
  cases h

theorem isBlank_head_dropWhile {cs : List Char} {c : Char}
    (h : (cs.dropWhile isBlank).head? = some c) : isBlank c = false := by
  have hnot := List.head?_dropWhile_not isBlank cs
  rw [h] at hnot
  simpa using hnot

/-- Trimming the end leaves the beginning as it was, or nothing. -/
theorem head?_trimEnd {cs : List Char} {c d : Char} (hcs : cs.head? = some d)
    (h : (trimEnd cs).head? = some c) : c = d := by
  have hprefix : trimEnd cs <+: cs := by
    have hsuffix := List.dropWhile_suffix isBlank (l := cs.reverse)
    rw [trimEnd, ← List.reverse_suffix, List.reverse_reverse]
    exact hsuffix
  obtain ⟨rest, hrest⟩ := hprefix
  rw [← hrest, List.head?_append, h] at hcs
  exact Option.some.inj hcs

/-- What trimming leaves does not begin with a blank, -/
theorem isBlank_head_trimChars {cs : List Char} {c : Char} (h : (trimChars cs).head? = some c) :
    isBlank c = false := by
  rw [trimChars] at h
  obtain ⟨d, hd⟩ : ∃ d, (trimStart cs).head? = some d := by
    cases hstart : trimStart cs with
    | nil =>
      rw [hstart] at h
      cases h
    | cons d cs => exact ⟨d, rfl⟩
  rw [head?_trimEnd hd h]
  exact isBlank_head_dropWhile hd

/-- nor end with one. -/
theorem isBlank_getLast_trimChars {cs : List Char} {c : Char}
    (h : (trimChars cs).getLast? = some c) : isBlank c = false := by
  rw [trimChars, trimEnd, List.getLast?_reverse] at h
  exact isBlank_head_dropWhile h

/-- **What trimming leaves is trimmed.** -/
theorem trimmed_of_nonBlank? {s t : String} (h : nonBlank? s = some t) : Trimmed t := by
  unfold nonBlank? at h
  split at h
  · cases h
  rename_i hne
  cases h
  refine ⟨hne, fun c hc => ?_, fun c hc => ?_⟩
  · rw [toList_trim] at hc
    exact isBlank_head_trimChars hc
  · rw [toList_trim] at hc
    exact isBlank_getLast_trimChars hc

/-- So is a text that trimming leaves as it is. -/
theorem trimmed_of_trim_eq {s : String} (hne : s ≠ "") (h : trim s = s) : Trimmed s := by
  have hself : nonBlank? s = some s := by rw [nonBlank?, h, if_neg hne]
  exact trimmed_of_nonBlank? hself

/-- **Nothing is left of a text exactly when it is blank throughout.** -/
theorem nonBlank?_eq_none_iff {s : String} :
    nonBlank? s = none ↔ ∀ c ∈ s.toList, isBlank c = true := by
  have hempty : trim s = "" ↔ trimChars s.toList = [] := by
    rw [← toList_trim, String.toList_eq_nil_iff]
  have hend : ∀ cs, trimEnd cs = [] ↔ ∀ c ∈ cs, isBlank c = true := by
    intro cs
    simp only [trimEnd, List.reverse_eq_nil_iff, List.dropWhile_eq_nil_iff, List.mem_reverse]
  have hstart : (∀ c ∈ trimStart s.toList, isBlank c = true) ↔
      ∀ c ∈ s.toList, isBlank c = true := by
    constructor
    · intro h
      cases hcs : trimStart s.toList with
      | nil => exact List.dropWhile_eq_nil_iff.mp hcs
      | cons c cs =>
        have hc := isBlank_head_dropWhile (c := c) (congrArg List.head? hcs)
        rw [h c (by rw [hcs]; exact List.mem_cons_self ..)] at hc
        cases hc
    · exact fun h c hc => h c ((List.dropWhile_sublist _).subset hc)
  unfold nonBlank?
  split
  · rename_i h
    rw [hempty, trimChars, hend, hstart] at h
    exact ⟨fun _ => h, fun _ => rfl⟩
  · rename_i h
    rw [hempty, trimChars, hend, hstart] at h
    refine ⟨fun hsome => ?_, fun h' => absurd h' h⟩
    cases hsome

/-- **Trimming takes the blanks around a text off**, and nothing of a text without blanks at its
    ends. -/
theorem trimChars_surrounded {front cs back : List Char} (hfront : ∀ c ∈ front, isBlank c = true)
    (hback : ∀ c ∈ back, isBlank c = true) (hhead : ∀ c, cs.head? = some c → isBlank c = false)
    (hlast : ∀ c, cs.getLast? = some c → isBlank c = false) :
    trimChars (front ++ cs ++ back) = cs := by
  have hblank : ∀ {ds : List Char}, (∀ c ∈ ds, isBlank c = true) → ds.dropWhile isBlank = [] :=
    fun h => List.dropWhile_eq_nil_iff.mpr h
  rw [trimChars, trimStart, List.append_assoc, List.dropWhile_append_of_pos hfront, trimEnd]
  cases cs with
  | nil => rw [List.nil_append, hblank hback]; rfl
  | cons c cs =>
    have hstart : (c :: cs ++ back).dropWhile isBlank = c :: cs ++ back :=
      dropWhile_of_head fun d hd => hhead d hd
    rw [hstart, List.reverse_append,
      List.dropWhile_append_of_pos fun d hd => hback d (List.mem_reverse.mp hd),
      dropWhile_of_head fun d hd => hlast d (by rwa [List.head?_reverse] at hd),
      List.reverse_reverse]

/-- What trimming takes off are blanks at the ends. -/
theorem exists_trimChars (cs : List Char) :
    ∃ front back, (∀ c ∈ front, isBlank c = true) ∧ (∀ c ∈ back, isBlank c = true) ∧
      cs = front ++ trimChars cs ++ back := by
  refine ⟨cs.takeWhile isBlank, ((trimStart cs).reverse.takeWhile isBlank).reverse,
    fun c hc => List.mem_takeWhile_imp hc,
    fun c hc => List.mem_takeWhile_imp (List.mem_reverse.mp hc), ?_⟩
  have hend : trimStart cs =
      trimChars cs ++ ((trimStart cs).reverse.takeWhile isBlank).reverse := by
    rw [trimChars, trimEnd, ← List.reverse_append, List.takeWhile_append_dropWhile,
      List.reverse_reverse]
  rw [List.append_assoc, ← hend]
  exact List.takeWhile_append_dropWhile.symm

/-- **Blanks around a text make no difference** to what trimming leaves. -/
theorem trimChars_around {front back : List Char} (hfront : ∀ c ∈ front, isBlank c = true)
    (hback : ∀ c ∈ back, isBlank c = true) (cs : List Char) :
    trimChars (front ++ cs ++ back) = trimChars cs := by
  obtain ⟨front', back', hfront', hback', hcs⟩ := exists_trimChars cs
  have hsplit : front ++ cs ++ back = (front ++ front') ++ trimChars cs ++ (back' ++ back) :=
    calc
      front ++ cs ++ back = front ++ (front' ++ trimChars cs ++ back') ++ back := by rw [← hcs]
      _ = (front ++ front') ++ trimChars cs ++ (back' ++ back) := by simp only [List.append_assoc]
  rw [hsplit]
  exact trimChars_surrounded (List.forall_mem_append.mpr ⟨hfront, hfront'⟩)
    (List.forall_mem_append.mpr ⟨hback', hback⟩) (fun _ => isBlank_head_trimChars)
    fun _ => isBlank_getLast_trimChars

end DaprHosting.Text
