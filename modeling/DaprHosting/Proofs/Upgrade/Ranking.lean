import DaprHosting.Proofs.Upgrade.Carried
import DaprHosting.Proofs.Version.Order
import DaprHosting.Proofs.Version.Spelling

/-!
# Versions can be numbered

Texts that denote versions are compared as versions, so they stand in one line as versions do: by
`isDowngrade_trichotomy` of two texts one goes back from the other, or they denote the same version.
Any texts of this kind can therefore be numbered (`rank`), and whether a patch turns the hook off is
a matter of the numbers alone. However an extension is taken up and down, no two patches can
disagree about which way is back.
-/

namespace DaprHosting

namespace Version

/-! ## 1. Two texts -/

/-- The text denotes a version. -/
def Readable (s : String) : Prop := (read? s).isSome = true

instance (s : String) : Decidable (Readable s) := inferInstanceAs (Decidable (_ = true))

theorem isDowngrade_of_read {a b : String} {v w : Version} (ha : read? a = some v)
    (hb : read? b = some w) : isDowngrade a b = v.before w := by
  rw [isDowngrade, ha, hb]

/-- **How two texts can stand to each other** that denote versions: one is behind the other, or
    they are completed to one text. -/
theorem isDowngrade_trichotomy {a b : String} (ha : Readable a) (hb : Readable b) :
    (isDowngrade a b = true ∧ isDowngrade b a = false ∧ completed a ≠ completed b) ∨
      (isDowngrade a b = false ∧ isDowngrade b a = true ∧ completed a ≠ completed b) ∨
      (isDowngrade a b = false ∧ isDowngrade b a = false ∧ completed a = completed b) := by
  obtain ⟨v, hv⟩ := Option.isSome_iff_exists.mp ha
  obtain ⟨w, hw⟩ := Option.isSome_iff_exists.mp hb
  have h := before_trichotomy v w
  rwa [isDowngrade_of_read hv hw, isDowngrade_of_read hw hv, ne_eq, ← read?_eq_iff hv hw]

theorem isDowngrade_trans {a b c : String} (ha : Readable a) (hb : Readable b) (hc : Readable c)
    (hab : isDowngrade a b = true) (hbc : isDowngrade b c = true) : isDowngrade a c = true := by
  obtain ⟨u, hu⟩ := Option.isSome_iff_exists.mp ha
  obtain ⟨v, hv⟩ := Option.isSome_iff_exists.mp hb
  obtain ⟨w, hw⟩ := Option.isSome_iff_exists.mp hc
  rw [isDowngrade_of_read hu hv] at hab
  rw [isDowngrade_of_read hv hw] at hbc
  rw [isDowngrade_of_read hu hw]
  exact before_trans hab hbc

/-! ## 2. Ranks -/

theorem countP_lt_countP {α : Type} {p q : α → Bool} {l : List α} {y : α}
    (himp : ∀ x ∈ l, p x = true → q x = true) (hy : y ∈ l) (hp : p y = false) (hq : q y = true) :
    l.countP p < l.countP q := by
  obtain ⟨front, back, rfl⟩ := List.append_of_mem hy
  have hfront : front.countP p ≤ front.countP q :=
    List.countP_mono_left fun x hx => himp x (List.mem_append_left _ hx)
  have hback : back.countP p ≤ back.countP q :=
    List.countP_mono_left fun x hx => himp x (List.mem_append_right _ (List.mem_cons_of_mem _ hx))
  rw [List.countP_append, List.countP_append, List.countP_cons, List.countP_cons, if_pos hq,
    if_neg (by rw [hp]; exact Bool.false_ne_true)]
  omega

/-- How many of the texts are behind this one. -/
def rank (texts : List String) (t : String) : Nat := texts.countP fun s => isDowngrade s t

section Rank

variable {texts : List String} (hread : ∀ t ∈ texts, Readable t) {x y : String} (hx : x ∈ texts)
  (hy : y ∈ texts)

include hread hx hy

/-- What is behind has the lesser rank. -/
theorem rank_lt (h : isDowngrade y x = true) : rank texts y < rank texts x := by
  have hself : isDowngrade y y = false := by
    rcases isDowngrade_trichotomy (hread y hy) (hread y hy) with ⟨-, h, -⟩ | ⟨h, -, -⟩ | ⟨h, -, -⟩
    all_goals exact h
  refine countP_lt_countP (fun t ht hty => ?_) hy hself h
  exact isDowngrade_trans (hread t ht) (hread y hy) (hread x hx) hty h

/-- Texts of one version have one rank. -/
theorem rank_eq (h : completed x = completed y) : rank texts x = rank texts y := by
  obtain ⟨v, hv⟩ := Option.isSome_iff_exists.mp (hread x hx)
  obtain ⟨w, hw⟩ := Option.isSome_iff_exists.mp (hread y hy)
  have hvw : v = w := (read?_eq_iff hv hw).mpr h
  refine List.countP_congr fun t ht => ?_
  obtain ⟨u, hu⟩ := Option.isSome_iff_exists.mp (hread t ht)
  rw [isDowngrade_of_read hu hv, isDowngrade_of_read hu hw, hvw]

/-- **The rank tells which of two texts is behind**, and whether they denote one version. -/
theorem rank_cases :
    isDowngrade y x = decide (rank texts y < rank texts x) ∧
      (rank texts x = rank texts y ↔ completed x = completed y) := by
  rcases isDowngrade_trichotomy (hread x hx) (hread y hy) with
    ⟨hxy, hyx, hne⟩ | ⟨hxy, hyx, hne⟩ | ⟨hxy, hyx, heq⟩
  · have hrank := rank_lt hread hy hx hxy
    rw [hyx, eq_comm, decide_eq_false_iff_not]
    exact ⟨Nat.lt_asymm hrank, iff_of_false (Nat.ne_of_lt hrank) hne⟩
  · have hrank := rank_lt hread hx hy hyx
    rw [hyx, eq_comm, decide_eq_true_eq]
    exact ⟨hrank, iff_of_false (Nat.ne_of_gt hrank) hne⟩
  · have hrank := rank_eq hread hx hy heq
    rw [hyx, eq_comm, decide_eq_false_iff_not]
    exact ⟨Nat.not_lt.mpr (Nat.le_of_eq hrank), iff_of_true hrank heq⟩

end Rank

end Version

/-! ## 3. The hook -/

namespace Patch

open Settings

/-- **What every patch submits for the hook** that takes an extension from one version to another,
    with any settings that were read. -/
def SubmitsHook (installed requested : String) (on : Bool) : Prop :=
  ∀ (given : Option (OrderedMap String)) (request : UpdateRequest) (extension : Extension),
    Given given request.settings → request.version = some requested →
      extension.version = some installed →
        ∃ map, (ofRequest request extension).settings = some map ∧
          map.get? applyCrdsHookKey = some (flagText on)

theorem submitsHook (installed requested : String) :
    SubmitsHook installed requested (!Version.isDowngrade requested installed) := by
  intro given request extension hgiven hrequested hinstalled
  have hcarried := carried_ofRequest hgiven extension
  refine ⟨_, hcarried.settings, ?_⟩
  rw [hcarried.hook, hrequested, hinstalled]
  simp only [← goesBack_iff, goesBack]
  cases Version.isDowngrade requested installed <;> rfl

/-- **The order on texts that denote versions, and the hook along any of them.**

    Of two such texts one is behind the other or they denote the same version, spelled the same once
    completed; which is behind is said by the rules of precedence; and what is behind one that is
    behind a third is behind the third. All texts of a chain of moves can be numbered, so that every
    patch from one to another turns the hook off exactly when it goes to a lesser number. -/
theorem hook_follows_rank :
    (∀ (a b : String) (v w : Version), Version.read? a = some v → Version.read? b = some w →
      (v = w ↔ Version.completed a = Version.completed b) ∧
      (Version.isDowngrade a b = true ↔ v.Precedes w) ∧
      ((Version.isDowngrade a b = true ∧ Version.isDowngrade b a = false ∧ v ≠ w) ∨
        (Version.isDowngrade a b = false ∧ Version.isDowngrade b a = true ∧ v ≠ w) ∨
        (Version.isDowngrade a b = false ∧ Version.isDowngrade b a = false ∧ v = w))) ∧
    (∀ a b c : String, Version.Readable a → Version.Readable b → Version.Readable c →
      Version.isDowngrade a b = true → Version.isDowngrade b c = true →
        Version.isDowngrade a c = true) ∧
    ∀ texts : List String, (∀ t ∈ texts, Version.Readable t) →
      ∃ rank : String → Nat, ∀ x ∈ texts, ∀ y ∈ texts,
        (rank x = rank y ↔ Version.completed x = Version.completed y) ∧
          SubmitsHook x y (!decide (rank y < rank x)) := by
  refine ⟨fun a b v w ha hb => ?_, fun a b c => Version.isDowngrade_trans, fun texts hread => ?_⟩
  · have hsame := Version.read?_eq_iff ha hb
    have hrules := Version.before_iff_precedes (a := v) (b := w)
    rw [← Version.isDowngrade_of_read ha hb] at hrules
    have hcases := Version.isDowngrade_trichotomy (Option.isSome_of_mem ha)
      (Option.isSome_of_mem hb)
    rw [ne_eq, ← hsame] at hcases
    exact ⟨hsame, hrules, hcases⟩
  · refine ⟨Version.rank texts, fun x hx y hy => ?_⟩
    obtain ⟨hbehind, hsame⟩ := Version.rank_cases hread hx hy
    rw [← hbehind]
    exact ⟨hsame, submitsHook x y⟩

/-- A chain up to a release and its build, by two spellings of one version. -/
theorem hook_follows_rank_to_release :
    let texts := ["v1.9", "1.10.0-rc.1 ", "1.10", "v1.10.0", "1.10.0+build.01"]
    let candidate : Version := ⟨1, 10, 0, [.word ['r', 'c'], .number 1 1], []⟩
    let released : Version := ⟨1, 10, 0, [], []⟩
    Version.completed "1.10" = Version.completed "v1.10.0" ∧
      (Version.isDowngrade "1.10.0-rc.1 " "1.10" = true ↔ candidate.Precedes released) ∧
      Version.isDowngrade "1.10.0-rc.1 " "1.10.0+build.01" = true ∧
      ∃ rank : String → Nat, ∀ x ∈ texts, ∀ y ∈ texts,
        (rank x = rank y ↔ Version.completed x = Version.completed y) ∧
          SubmitsHook x y (!decide (rank y < rank x)) := by
  intro texts candidate released
  have hread : ∀ t ∈ texts, Version.Readable t := by decide
  have hcandidate : Version.read? "1.10.0-rc.1 " = some candidate := by decide
  have hreleased : Version.read? "1.10" = some released := by decide
  refine ⟨by decide, (hook_follows_rank.1 _ _ _ _ hcandidate hreleased).2.1, ?_,
    hook_follows_rank.2.2 texts hread⟩
  exact hook_follows_rank.2.1 _ "1.10" _ (by decide) (by decide) (by decide) (by decide) (by decide)

end Patch

end DaprHosting
