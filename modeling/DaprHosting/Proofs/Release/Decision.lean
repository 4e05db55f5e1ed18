import DaprHosting.Proofs.Settings.Values
import DaprHosting.Release

/-!
# What a decision takes from the settings

`Decided` says once every way a decision can go: who decides, and which settings are left. Whatever
is proved of what is left is proved from `decide_decided`.
-/

namespace DaprHosting.Release

/-! ## 1. Who decides -/

/-- The skip flag decides. -/
def bySkipFlag (s : Settings) : Bool := s.skipExistingCheck == some true

/-- The two keys that name a release decide. -/
def byReleaseKeys (s : Settings) : Bool :=
  !bySkipFlag s && s.existingReleaseName.isSome && s.existingReleaseNamespace.isSome

/-- **How a decision can go**: the decision, and the settings that are left. -/
inductive Decided (s : Settings) : Decision → Settings → Prop where
  | skipped (hskip : bySkipFlag s = true) :
      Decided s .skipped { s with skipExistingCheck := none }
  | existing {n ns : String} (hkeys : byReleaseKeys s = true)
      (hn : s.existingReleaseName = some n) (hns : s.existingReleaseNamespace = some ns) :
      Decided s (.existing n ns)
        { s with skipExistingCheck := none, existingReleaseName := none,
                 existingReleaseNamespace := none }
  | asked (hskip : bySkipFlag s = false) (hkeys : byReleaseKeys s = false) :
      Decided s .asked { s with skipExistingCheck := none }

/-- **Every decision goes one of these ways.** -/
theorem decide_decided (s : Settings) : Decided s (decide s).1 (decide s).2 := by
  unfold decide
  by_cases h : s.skipExistingCheck = some true
  · rw [if_pos h]
    exact .skipped (beq_iff_eq.mpr h)
  · have hskip : bySkipFlag s = false := beq_eq_false_iff_ne.mpr h
    rw [if_neg h]
    split
    · rename_i n ns hn hns
      exact .existing (by simp [byReleaseKeys, hskip, hn, hns]) hn hns
    · rename_i hlone
      refine .asked hskip ?_
      rcases hn : s.existingReleaseName with _ | n
      · simp [byReleaseKeys, hn]
      · rcases hns : s.existingReleaseNamespace with _ | ns
        · simp [byReleaseKeys, hns]
        · exact (hlone n ns hn hns).elim

theorem bySkipFlag_of_byReleaseKeys {s : Settings} (h : byReleaseKeys s = true) :
    bySkipFlag s = false := by
  cases hs : bySkipFlag s with
  | false => rfl
  | true => simp [byReleaseKeys, hs] at h

theorem byReleaseKeys_of_bySkipFlag {s : Settings} (h : bySkipFlag s = true) :
    byReleaseKeys s = false := by
  simp [byReleaseKeys, h]

/-! ## 2. What is left -/

open Settings

/-- The key is used up: the skip flag always, the two others when they decide. -/
def Taken (s : Settings) (key : String) : Prop :=
  key = skipExistingCheckKey ∨ byReleaseKeys s = true ∧ key ∈ releaseKeys

instance (s : Settings) (key : String) : Decidable (Taken s key) := instDecidableOr

/-- Only control keys are used up. -/
theorem Taken.mem_controlKeys {s : Settings} {key : String} (h : Taken s key) :
    key ∈ controlKeys := by
  rcases h with rfl | ⟨-, h⟩
  · exact List.mem_cons_self ..
  · exact List.mem_cons_of_mem _ h

/-- The keys that name a release are used up when they decide. -/
theorem taken_iff_of_mem_releaseKeys {s : Settings} {key : String} (h : key ∈ releaseKeys) :
    Taken s key ↔ byReleaseKeys s = true := by
  have hskip : key ≠ skipExistingCheckKey := by
    rintro rfl
    exact absurd h (by decide)
  simp only [Taken, hskip, h, false_or, and_true]

/-- **What is used up is gone, and all else is as it was.** -/
theorem value?_left (s : Settings) (key : String) :
    (decide s).2.value? key = if Taken s key then none else s.value? key := by
  have h := decide_decided s
  generalize (decide s).1 = d, (decide s).2 = left at h ⊢
  cases h with
  | skipped hskip =>
    rw [value?_with_skipExistingCheck]
    simp [Taken, byReleaseKeys_of_bySkipFlag hskip]
  | existing hkeys =>
    by_cases hs : key = skipExistingCheckKey
    · subst hs
      exact (if_pos (.inl rfl)).symm
    by_cases hn : key = existingReleaseNameKey
    · subst hn
      exact (if_pos (.inr ⟨hkeys, by decide⟩)).symm
    by_cases hns : key = existingReleaseNamespaceKey
    · subst hns
      exact (if_pos (.inr ⟨hkeys, by decide⟩)).symm
    · simp [Taken, releaseKeys, value?, hs, hn, hns]
  | asked hskip hkeys =>
    rw [value?_with_skipExistingCheck]
    simp [Taken, hkeys]

theorem extra_left (s : Settings) : (decide s).2.extra = s.extra := by
  have h := decide_decided s
  generalize (decide s).1 = d, (decide s).2 = left at h ⊢
  cases h <;> rfl

end DaprHosting.Release
