import DaprHosting.Proofs.Upgrade.Ranking

/-!
# Downgrades in a circle

Two texts are compared as versions when both denote one, and as texts otherwise. Either order is a
strict one, but a row of downgrades may change between them: when a text that is no version stands
between two that are, and these stand otherwise as versions than as texts, the row can return to
where it began (`downgrades_in_a_circle`). That is the only way: `downgrades_return_only_mixed` says
that downgrades follow on one another as in one order exactly if no text is so `Mixed` in.
-/

namespace DaprHosting.Version

/-! ## 1. Two texts -/

theorem isDowngrade_iff_lt {a b : String} (h : ¬ Readable a ∨ ¬ Readable b) :
    isDowngrade a b = true ↔ a < b := by
  unfold isDowngrade
  split
  · rename_i v w ha hb
    exact absurd h (by simp [Readable, ha, hb])
  · exact decide_eq_true_iff

/-- **Of a move and its reversal one at most is a downgrade.** -/
theorem isDowngrade_asymm {a b : String} (h : isDowngrade a b = true) : isDowngrade b a = false := by
  rw [← Bool.not_eq_true]
  intro hback
  by_cases hread : Readable a ∧ Readable b
  · rcases isDowngrade_trichotomy hread.1 hread.2 with ⟨-, hno, -⟩ | ⟨hno, -⟩ | ⟨hno, -⟩
    · rw [hno] at hback
      cases hback
    all_goals
      rw [hno] at h
      cases h
  · rw [Classical.not_and_iff_not_or_not] at hread
    rw [isDowngrade_iff_lt hread] at h
    rw [isDowngrade_iff_lt hread.symm] at hback
    exact String.lt_asymm h hback

theorem isDowngrade_self (a : String) : isDowngrade a a = false := by
  cases h : isDowngrade a a with
  | false => rfl
  | true =>
    rw [isDowngrade_asymm h] at h
    cases h

/-! ## 2. Mixed texts -/

/-- **A text that is no version stands between two that are**, of which the first, as a version, is
    not behind the second. -/
structure Astride (x u y : String) : Prop where
  first : Readable x
  between : ¬ Readable u
  second : Readable y
  above : x < u
  below : u < y
  otherwise : isDowngrade x y = false

instance (x u y : String) : Decidable (Astride x u y) :=
  decidable_of_iff
    (Readable x ∧ ¬ Readable u ∧ Readable y ∧ x < u ∧ u < y ∧ isDowngrade x y = false)
    ⟨fun ⟨h₁, h₂, h₃, h₄, h₅, h₆⟩ => ⟨h₁, h₂, h₃, h₄, h₅, h₆⟩,
      fun ⟨h₁, h₂, h₃, h₄, h₅, h₆⟩ => ⟨h₁, h₂, h₃, h₄, h₅, h₆⟩⟩

/-- Among the texts one stands so between two others. -/
def Mixed (texts : List String) : Prop := ∃ x ∈ texts, ∃ u ∈ texts, ∃ y ∈ texts, Astride x u y

instance (texts : List String) : Decidable (Mixed texts) :=
  inferInstanceAs (Decidable (∃ _ ∈ texts, _))

theorem Mixed.mono {texts more : List String} (hsub : texts ⊆ more) (h : Mixed texts) :
    Mixed more := by
  obtain ⟨x, hx, u, hu, y, hy, h⟩ := h
  exact ⟨x, hsub hx, u, hsub hu, y, hsub hy, h⟩

/-- A text that is a version and one that is none: either stands before the other. -/
theorem lt_of_not_lt {a b : String} (h : ¬ a < b) (hread : ¬ (Readable a ↔ Readable b)) : b < a :=
  Std.lt_of_le_of_ne (String.not_lt.mp h) fun e => hread (e ▸ Iff.rfl)

section Three

variable {a b c : String} (hab : isDowngrade a b = true) (hbc : isDowngrade b c = true)

include hab hbc

/-- **Downgrades follow on one another** unless the texts are mixed. -/
theorem isDowngrade_of_not_mixed (h : ¬ Mixed [a, b, c]) : isDowngrade a c = true := by
  have hmix : ∀ x ∈ [a, b, c], ∀ u ∈ [a, b, c], ∀ y ∈ [a, b, c], ¬ Astride x u y :=
    fun x hx u hu y hy hastride => h ⟨x, hx, u, hu, y, hy, hastride⟩
  simp only [List.forall_mem_cons] at hmix
  -- which of the three is no version decides between which two it could stand
  by_cases hb : Readable b
  · by_cases ha : Readable a
    · by_cases hc : Readable c
      · exact isDowngrade_trans ha hb hc hab hbc
      · rw [isDowngrade_iff_lt (.inr hc)] at hbc ⊢
        refine Classical.byContradiction fun hac => hmix.2.1.2.2.1.1 ?_
        have hca := lt_of_not_lt hac (by simp [ha, hc])
        exact ⟨hb, hc, ha, hbc, hca, isDowngrade_asymm hab⟩
    · rw [isDowngrade_iff_lt (.inl ha)] at hab ⊢
      by_cases hc : Readable c
      · refine Classical.byContradiction fun hac => hmix.2.2.1.1.2.1 ?_
        have hca := lt_of_not_lt hac (by simp [ha, hc])
        exact ⟨hc, ha, hb, hca, hab, isDowngrade_asymm hbc⟩
      · exact String.lt_trans hab ((isDowngrade_iff_lt (.inr hc)).mp hbc)
  · rw [isDowngrade_iff_lt (.inr hb)] at hab
    rw [isDowngrade_iff_lt (.inl hb)] at hbc
    by_cases hac : Readable a ∧ Readable c
    · refine Classical.byContradiction fun hno => hmix.1.2.1.2.2.1 ?_
      exact ⟨hac.1, hb, hac.2, hab, hbc, by simpa using hno⟩
    · rw [isDowngrade_iff_lt (Classical.not_and_iff_not_or_not.mp hac)]
      exact String.lt_trans hab hbc

/-- Where they do so follow, none of the texts stands between the others. -/
theorem not_mixed_of_isDowngrade (hac : isDowngrade a c = true) : ¬ Mixed [a, b, c] := by
  rintro ⟨x, hx, u, hu, y, hy, h⟩
  have hxu : isDowngrade x u = true := (isDowngrade_iff_lt (.inr h.between)).mpr h.above
  have huy : isDowngrade u y = true := (isDowngrade_iff_lt (.inl h.between)).mpr h.below
  -- nothing is behind `a`, and `c` is behind nothing
  have hleast : ∀ t ∈ [a, b, c], isDowngrade t a ≠ true := by
    simp [isDowngrade_self, isDowngrade_asymm hab, isDowngrade_asymm hac]
  have hgreatest : ∀ t ∈ [a, b, c], isDowngrade c t ≠ true := by
    simp [isDowngrade_self, isDowngrade_asymm hbc, isDowngrade_asymm hac]
  have hb : u = b := by
    simp only [List.mem_cons, List.not_mem_nil, or_false] at hu
    rcases hu with rfl | rfl | rfl
    · exact absurd hxu (hleast x hx)
    · rfl
    · exact absurd huy (hgreatest y hy)
  subst hb
  have hself : isDowngrade u u ≠ true := by simp [isDowngrade_self]
  have hx' : x = a := by
    simp only [List.mem_cons, List.not_mem_nil, or_false] at hx
    rcases hx with rfl | rfl | rfl
    · rfl
    · exact absurd hxu hself
    · exact absurd hxu (hgreatest u hu)
  have hy' : y = c := by
    simp only [List.mem_cons, List.not_mem_nil, or_false] at hy
    rcases hy with rfl | rfl | rfl
    · exact absurd huy (hleast u hu)
    · exact absurd huy hself
    · rfl
  have hno := h.otherwise
  rw [hx', hy', hac] at hno
  cases hno

end Three

/-! ## 3. Rows of moves -/

/-- **A row of texts in which every move goes back**, from each text to the next. -/
abbrev AllBack : List String → Prop :=
  List.IsChain fun installed requested => isDowngrade requested installed = true

/-- Every text of such a row is behind the first. -/
theorem behind_first {first : String} {rest : List String} (h : AllBack (first :: rest))
    (hmixed : ¬ Mixed (first :: rest)) : ∀ t ∈ rest, isDowngrade t first = true := by
  induction rest generalizing first with
  | nil => exact fun t ht => absurd ht List.not_mem_nil
  | cons next rest ih =>
    obtain ⟨hnext, hrest⟩ := List.isChain_cons_cons.mp h
    have hbehind := ih hrest fun hmix => hmixed (hmix.mono (List.subset_cons_self _ _))
    refine List.forall_mem_cons.mpr ⟨hnext, fun t ht => ?_⟩
    refine isDowngrade_of_not_mixed (hbehind t ht) hnext fun hmix => hmixed (hmix.mono ?_)
    simp [ht]

/-- The texts are the same, or denote the same version. -/
def SameVersion (a b : String) : Prop := a = b ∨ Readable a ∧ read? a = read? b

theorem SameVersion.not_back {a b : String} (h : SameVersion a b) : isDowngrade a b = false := by
  rcases h with rfl | ⟨ha, hsame⟩
  · exact isDowngrade_self a
  · obtain ⟨v, hv⟩ := Option.isSome_iff_exists.mp ha
    rw [isDowngrade_of_read hv (hsame ▸ hv), ← isDowngrade_of_read hv hv]
    exact isDowngrade_self a

/-- **When downgrades stand in one order.**

    Two downgrades in a row are one, exactly if no text that is no version stands between two that
    are and that are otherwise as versions than as texts. Without such a text no row of downgrades
    ends with the version that it began with. No move to the same version is a downgrade, and of a
    move and its reversal one at most. -/
theorem downgrades_return_only_mixed :
    (∀ a b c : String, isDowngrade a b = true → isDowngrade b c = true →
      (isDowngrade a c = true ↔ ¬ Mixed [a, b, c])) ∧
    (∀ a b : String, SameVersion a b → isDowngrade a b = false) ∧
    (∀ a b : String, isDowngrade a b = true → isDowngrade b a = false) ∧
    ∀ (first last : String) (rest : List String), AllBack (first :: rest) →
      rest.getLast? = some last → SameVersion last first → Mixed (first :: rest) := by
  refine ⟨fun a b c hab hbc => ?_, fun a b h => h.not_back, fun a b => isDowngrade_asymm,
    fun first last rest hback hlast hsame => ?_⟩
  · exact ⟨not_mixed_of_isDowngrade hab hbc, isDowngrade_of_not_mixed hab hbc⟩
  · refine Classical.byContradiction fun hmixed => ?_
    have hbehind := behind_first hback hmixed last (List.mem_of_getLast? hlast)
    rw [hsame.not_back] at hbehind
    cases hbehind

/-- **Downgrades in a circle**: from `1.9.0` by a text that is no version to `1.10.0`, and from there
    back to `1.9.0`, each move is a downgrade, though going from `1.9.0` to `1.10.0` is none. -/
theorem downgrades_in_a_circle :
    isDowngrade "1.12-lts" "1.9.0" = true ∧ isDowngrade "1.10.0" "1.12-lts" = true ∧
      isDowngrade "1.10.0" "1.9.0" = false ∧ isDowngrade "1.9.0" "1.10.0" = true := by
  decide

/-- Three texts in one order, one of which is no version, and the circle. -/
theorem downgrades_return_only_mixed_from_latest :
    isDowngrade "1.10.0" "1.11" = true ∧ isDowngrade "1.11" "latest" = true ∧
      isDowngrade "1.10.0" "latest" = true ∧ SameVersion "1.10" "v1.10.0" ∧
      isDowngrade "1.10" "v1.10.0" = false ∧
      AllBack ["1.9.0", "1.12-lts", "1.10.0", "v1.9"] ∧
      Mixed ["1.9.0", "1.12-lts", "1.10.0", "v1.9"] := by
  have hfirst : isDowngrade "1.10.0" "1.11" = true := by decide
  have hsecond : isDowngrade "1.11" "latest" = true := by decide
  have hsame : SameVersion "1.10" "v1.10.0" := .inr (by decide)
  have hback : AllBack ["1.9.0", "1.12-lts", "1.10.0", "v1.9"] := by decide
  refine ⟨hfirst, hsecond, ?_, hsame, downgrades_return_only_mixed.2.1 _ _ hsame, hback, ?_⟩
  · exact (downgrades_return_only_mixed.1 _ _ _ hfirst hsecond).mpr (by decide)
  · exact downgrades_return_only_mixed.2.2.2 "1.9.0" "v1.9" _ hback rfl (.inr (by decide))

end DaprHosting.Version
