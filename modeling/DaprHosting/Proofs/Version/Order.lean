import DaprHosting.Version.Basic

/-!
# Versions stand in one line

The order of versions is put together from orders that are total, part by part: numbers, then
identifiers, then lists of them. So it is total itself (`Version.order` is transitive, and two
versions are equal in it only if they are the same). What it puts first is said apart from how it is
computed: `Precedes` has one rule for each part in which two versions can first differ, and
`before_iff_precedes` says that the order follows these rules.
-/

namespace DaprHosting.Version

/-! ## 1. Lists by their first difference -/

/-- **One list before another**: it ends where the other goes on, or has the lesser element where
    they first differ. -/
inductive FirstDifference {α : Type} (below : α → α → Prop) : List α → List α → Prop where
  | ends (front : List α) (y : α) (rest : List α) :
      FirstDifference below front (front ++ y :: rest)
  | differs (front : List α) {x y : α} (h : below x y) (rest rest' : List α) :
      FirstDifference below (front ++ x :: rest) (front ++ y :: rest')

theorem FirstDifference.cons {α : Type} {below : α → α → Prop} {xs ys : List α} (z : α)
    (h : FirstDifference below xs ys) : FirstDifference below (z :: xs) (z :: ys) := by
  cases h with
  | ends => exact .ends (z :: xs) _ _
  | differs front h => exact .differs (z :: front) h _ _

section Lists

variable {α : Type} {cmp : α → α → Ordering}

theorem compareLex_append [Std.ReflCmp cmp] (front xs ys : List α) :
    List.compareLex cmp (front ++ xs) (front ++ ys) = List.compareLex cmp xs ys := by
  induction front with
  | nil => rfl
  | cons z front ih =>
    have hz : cmp z z = .eq := Std.ReflCmp.compare_self
    rw [List.cons_append, List.cons_append, List.compareLex_cons_cons, hz, Ordering.eq_then, ih]

/-- **Lists are compared by their first difference.** -/
theorem compareLex_eq_lt_iff [Std.LawfulEqCmp cmp] {xs ys : List α} :
    List.compareLex cmp xs ys = .lt ↔ FirstDifference (fun x y => cmp x y = .lt) xs ys := by
  constructor
  · intro h
    induction xs generalizing ys with
    | nil =>
      cases ys with
      | nil => cases h
      | cons y ys => exact .ends [] y ys
    | cons x xs ih =>
      cases ys with
      | nil => cases h
      | cons y ys =>
        rw [List.compareLex_cons_cons, Ordering.then_eq_lt] at h
        rcases h with h | ⟨heq, h⟩
        · refine .differs [] ?_ xs ys
          exact h
        · rw [Std.LawfulEqCmp.eq_of_compare heq]
          exact (ih h).cons y
  · intro h
    cases h with
    | @ends _ y rest =>
      have hends : List.compareLex cmp (xs ++ []) (xs ++ y :: rest) = .lt := compareLex_append ..
      rwa [List.append_nil] at hends
    | differs front h =>
      rw [compareLex_append, List.compareLex_cons_cons, h, Ordering.lt_then]

end Lists

/-! ## 2. Identifiers -/

namespace Identifier

/-- **What puts one identifier below another.** -/
inductive Below : Identifier → Identifier → Prop where
  /-- The lesser number, -/
  | value {v v' : Nat} (h : v < v') (w w' : Nat) : Below (.number v w) (.number v' w')
  /-- of equal numbers the one with fewer leading zeros, -/
  | width (v : Nat) {w w' : Nat} (h : w < w') : Below (.number v w) (.number v w')
  /-- a number before a word, -/
  | kind (v w : Nat) (a : List Char) : Below (.number v w) (.word a)
  /-- and of words the one with the lesser character where they first differ. -/
  | letters {a b : List Char} (h : FirstDifference (· < ·) a b) : Below (.word a) (.word b)

/-- Numbers and words apart. -/
def isWord : Identifier → Bool
  | .number .. => false
  | .word _ => true

/-- The number that an identifier is. -/
def value : Identifier → Nat
  | .number v _ => v
  | .word _ => 0

/-- The count of the digits of a number. -/
def width : Identifier → Nat
  | .number _ w => w
  | .word _ => 0

/-- The letters of a word. -/
def letters : Identifier → List Char
  | .number .. => []
  | .word a => a

/-- The order of identifiers goes part by part. -/
theorem order_eq : order = compareLex (compareOn isWord) (compareLex (compareOn value)
    (compareLex (compareOn width) (compareOn letters))) := by
  funext i j
  cases i with
  | number v w =>
    cases j with
    | number v' w' =>
      have hsame : (compare w w').then .eq = compare w w' := Ordering.then_eq
      exact congrArg (compare v v').then hsame.symm
    | word b => rfl
  | word a =>
    cases j with
    | number v' w' => rfl
    | word b => rfl

instance : Std.TransCmp order := order_eq ▸ inferInstance

instance : Std.LawfulEqCmp order where
  eq_of_compare {i j} h := by
    cases i with
    | number v w =>
      cases j with
      | number v' w' =>
        obtain ⟨hv, hw⟩ := Ordering.then_eq_eq.mp h
        rw [Std.LawfulEqOrd.eq_of_compare hv, Std.LawfulEqOrd.eq_of_compare hw]
      | word b => cases h
    | word a =>
      cases j with
      | number v' w' => cases h
      | word b => exact congrArg word (Std.LawfulEqOrd.eq_of_compare h)

/-- **The order of identifiers follows the rules.** -/
theorem order_eq_lt_iff {i j : Identifier} : order i j = .lt ↔ Below i j := by
  have hletters : ∀ {a b : List Char}, compare a b = .lt ↔ FirstDifference (· < ·) a b := by
    intro a b
    have hchar : ∀ c d : Char, compare c d = .lt ↔ c < d := fun _ _ => compareOfLessAndEq_eq_lt
    simp only [List.compare_eq_compareLex, compareLex_eq_lt_iff, hchar]
  constructor
  · intro h
    cases i with
    | number v w =>
      cases j with
      | number v' w' =>
        rcases Ordering.then_eq_lt.mp h with hv | ⟨hv, hw⟩
        · exact .value (Nat.compare_eq_lt.mp hv) w w'
        · rw [Nat.compare_eq_eq.mp hv]
          exact .width v' (Nat.compare_eq_lt.mp hw)
      | word b => exact .kind v w b
    | word a =>
      cases j with
      | number v' w' => cases h
      | word b => exact .letters (hletters.mp h)
  · intro h
    cases h with
    | value h w w' => exact Ordering.then_eq_lt.mpr (.inl (Nat.compare_eq_lt.mpr h))
    | width v h =>
      exact Ordering.then_eq_lt.mpr (.inr ⟨Nat.compare_eq_eq.mpr rfl, Nat.compare_eq_lt.mpr h⟩)
    | kind => rfl
    | letters h => exact hletters.mpr h

end Identifier

/-- **Lists of identifiers, by their first difference.** -/
abbrev IdentifiersBelow : List Identifier → List Identifier → Prop :=
  FirstDifference Identifier.Below

theorem identifiers_eq_lt_iff {as bs : List Identifier} :
    List.compareLex Identifier.order as bs = .lt ↔ IdentifiersBelow as bs := by
  simp only [compareLex_eq_lt_iff, Identifier.order_eq_lt_iff]

/-! ## 3. Pre-releases -/

/-- A list is compared first by whether there is anything in it. -/
theorem preOrder_eq :
    preOrder = compareLex (compareOn List.isEmpty) (List.compareLex Identifier.order) := by
  funext as bs
  cases as with
  | nil => cases bs <;> rfl
  | cons a as => cases bs <;> rfl

instance : Std.TransCmp preOrder := preOrder_eq ▸ inferInstance

instance : Std.LawfulEqCmp preOrder where
  eq_of_compare {as bs} h := by
    rw [preOrder_eq, compareLex_eq_eq] at h
    exact Std.LawfulEqCmp.eq_of_compare h.2

/-- **A pre-release comes before none**, and before another by their first difference. -/
theorem preOrder_eq_lt_iff {as bs : List Identifier} :
    preOrder as bs = .lt ↔ as ≠ [] ∧ (bs = [] ∨ IdentifiersBelow as bs) := by
  cases as with
  | nil => cases bs <;> simp [preOrder]
  | cons a as =>
    cases bs with
    | nil => simp [preOrder]
    | cons b bs => simp [preOrder, identifiers_eq_lt_iff]

/-! ## 4. Versions -/

/-- The order of versions goes part by part. -/
theorem order_eq :
    order = compareLex (compareOn major) (compareLex (compareOn minor) (compareLex (compareOn patch)
      (compareLex (fun a b => preOrder a.pre b.pre)
        fun a b => List.compareLex Identifier.order a.build b.build))) :=
  rfl

instance : Std.TransCmp fun a b : Version => preOrder a.pre b.pre where
  eq_swap := Std.OrientedCmp.eq_swap
  isLE_trans := Std.TransCmp.isLE_trans

instance : Std.TransCmp fun a b : Version => List.compareLex Identifier.order a.build b.build where
  eq_swap := Std.OrientedCmp.eq_swap
  isLE_trans := Std.TransCmp.isLE_trans

instance : Std.TransCmp order := order_eq ▸ inferInstance

instance : Std.LawfulEqCmp order where
  eq_of_compare {a b} h := by
    simp only [order, Ordering.then_eq_eq, Std.LawfulEqCmp.compare_eq_iff_eq] at h
    obtain ⟨hmajor, hminor, hpatch, hpre, hbuild⟩ := h
    cases a
    cases b
    simp_all

/-- The three numbers are the same. -/
def SameNumbers (a b : Version) : Prop :=
  a.major = b.major ∧ a.minor = b.minor ∧ a.patch = b.patch

/-- **What puts one version before another**: the first part in which they differ. -/
inductive Precedes (a b : Version) : Prop where
  | major (h : a.major < b.major)
  | minor (hmajor : a.major = b.major) (h : a.minor < b.minor)
  | patch (hmajor : a.major = b.major) (hminor : a.minor = b.minor) (h : a.patch < b.patch)
  /-- A pre-release precedes its release, -/
  | release (hsame : SameNumbers a b) (ha : a.pre ≠ []) (hb : b.pre = [])
  /-- and one pre-release another by their identifiers. -/
  | preRelease (hsame : SameNumbers a b) (ha : a.pre ≠ []) (h : IdentifiersBelow a.pre b.pre)
  /-- Build metadata takes part last, -/
  | build (hsame : SameNumbers a b) (hpre : a.pre = b.pre) (h : IdentifiersBelow a.build b.build)

/-- **The order of versions follows the rules.** -/
theorem before_iff_precedes {a b : Version} : a.before b = true ↔ Precedes a b := by
  have hbefore : a.before b = true ↔ a.order b = .lt := Ordering.isLT_iff_eq_lt
  have hnumber : ∀ m n : Nat, compare m n = .eq ↔ m = n := fun _ _ => Nat.compare_eq_eq
  rw [hbefore, order]
  constructor
  · intro h
    rcases Ordering.then_eq_lt.mp h with h | ⟨hmajor, h⟩
    · exact .major (Nat.compare_eq_lt.mp h)
    rw [hnumber] at hmajor
    rcases Ordering.then_eq_lt.mp h with h | ⟨hminor, h⟩
    · exact .minor hmajor (Nat.compare_eq_lt.mp h)
    rw [hnumber] at hminor
    rcases Ordering.then_eq_lt.mp h with h | ⟨hpatch, h⟩
    · exact .patch hmajor hminor (Nat.compare_eq_lt.mp h)
    have hsame : SameNumbers a b := ⟨hmajor, hminor, Nat.compare_eq_eq.mp hpatch⟩
    rcases Ordering.then_eq_lt.mp h with h | ⟨hpre, h⟩
    · obtain ⟨ha, hb | hbelow⟩ := preOrder_eq_lt_iff.mp h
      · exact .release hsame ha hb
      · exact .preRelease hsame ha hbelow
    · exact .build hsame (Std.LawfulEqCmp.eq_of_compare hpre) (identifiers_eq_lt_iff.mp h)
  · have hparts : ∀ {x : Ordering}, SameNumbers a b → x = .lt →
        (compare a.major b.major).then ((compare a.minor b.minor).then
          ((compare a.patch b.patch).then x)) = .lt := by
      rintro x ⟨hmajor, hminor, hpatch⟩ hx
      rw [(hnumber _ _).mpr hmajor, (hnumber _ _).mpr hminor, (hnumber _ _).mpr hpatch]
      exact hx
    intro h
    cases h with
    | major h => rw [Nat.compare_eq_lt.mpr h, Ordering.lt_then]
    | minor hmajor h =>
      rw [(hnumber _ _).mpr hmajor, Nat.compare_eq_lt.mpr h]
      rfl
    | patch hmajor hminor h =>
      rw [(hnumber _ _).mpr hmajor, (hnumber _ _).mpr hminor, Nat.compare_eq_lt.mpr h]
      rfl
    | release hsame ha hb =>
      have hpre : preOrder a.pre b.pre = .lt := preOrder_eq_lt_iff.mpr ⟨ha, .inl hb⟩
      exact hparts hsame (by rw [hpre, Ordering.lt_then])
    | preRelease hsame ha h =>
      have hpre : preOrder a.pre b.pre = .lt := preOrder_eq_lt_iff.mpr ⟨ha, .inr h⟩
      exact hparts hsame (by rw [hpre, Ordering.lt_then])
    | build hsame hpre h =>
      have hpre : preOrder a.pre b.pre = .eq := Std.LawfulEqCmp.compare_eq_iff_eq.mpr hpre
      exact hparts hsame (by rw [hpre, Ordering.eq_then, identifiers_eq_lt_iff.mpr h])

/-! ## 5. One line -/

/-- **Of two versions one comes first, or they are the same**, and no two of these hold. -/
theorem before_trichotomy (a b : Version) :
    (a.before b = true ∧ b.before a = false ∧ a ≠ b) ∨
      (a.before b = false ∧ b.before a = true ∧ a ≠ b) ∨
      (a.before b = false ∧ b.before a = false ∧ a = b) := by
  have hswap : b.order a = (a.order b).swap := Std.OrientedCmp.eq_swap
  have heq : a.order b = .eq ↔ a = b := Std.LawfulEqCmp.compare_eq_iff_eq
  unfold before
  simp only [hswap, ne_eq, ← heq]
  cases a.order b <;> decide

theorem before_trans {a b c : Version} (hab : a.before b = true) (hbc : b.before c = true) :
    a.before c = true := by
  unfold before at hab hbc ⊢
  rw [Ordering.isLT_iff_eq_lt] at hab hbc ⊢
  exact Std.TransCmp.lt_trans hab hbc

end DaprHosting.Version
