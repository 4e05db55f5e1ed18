import DaprHosting.Proofs.Text.Decimal
import DaprHosting.Version.Reader

/-!
# A version has one spelling

In the full form nothing about a version can be written in two ways: its three numbers have no
leading zeros, an identifier is known by its text, and the marks between the parts stand in no
identifier. So two texts in the full form denote the same version only if they are the same
(`ofChars?_inj`). An operator's text is completed to the full form first, and `read?_eq_iff` says
that two texts are read alike exactly if they are completed alike.
-/

namespace DaprHosting.Version

/-! ## 1. Parts -/

/-- **A number is written without leading zeros**, and fits 64 bits. -/
theorem numeral?_eq_some_iff {cs : List Char} {n : Nat} :
    numeral? cs = some n ↔ cs = Text.decimal n ∧ n ≤ Word.max64 := by
  unfold numeral?
  split
  · rename_i hbad
    refine iff_of_false nofun ?_
    rintro ⟨hcs, -⟩
    obtain ⟨hne, hdigits, hzero, -⟩ := Text.eq_decimal_iff.mp hcs
    rcases hbad with h | h | ⟨h, h'⟩
    · exact hne h
    · exact h (List.all_eq_true.mpr hdigits)
    · exact h' (hzero h)
  · rename_i hgood
    simp only [not_or, not_and, Classical.not_not, List.all_eq_true] at hgood
    obtain ⟨hne, hdigits, hzero⟩ := hgood
    constructor
    · intro h
      obtain ⟨m, hm, h⟩ := Option.bind_eq_some_iff.mp h
      split at h
      · rename_i hfits
        cases h
        exact ⟨Text.eq_decimal hne hdigits hzero hm, hfits⟩
      · cases h
    · rintro ⟨rfl, hfits⟩
      rw [Text.numeral?_decimal, Option.bind_some, if_pos hfits]

/-- **A number is written in one way.** -/
theorem number_inj {cs ds : List Char} {n : Nat} (h : numeral? cs = some n)
    (h' : numeral? ds = some n) : cs = ds := by
  rw [(numeral?_eq_some_iff.mp h).1, (numeral?_eq_some_iff.mp h').1]

/-- **An identifier is known by its text.** -/
theorem buildIdentifier_inj {cs ds : List Char} {i : Identifier}
    (h : buildIdentifier? cs = some i) (h' : buildIdentifier? ds = some i) : cs = ds := by
  have hread : ∀ {cs : List Char}, buildIdentifier? cs = some i →
      ((∀ c ∈ cs, c.isDigit = true) ∧
        ∃ n, Text.numeral? 10 cs = some n ∧ i = .number n cs.length) ∨ i = .word cs := by
    intro cs h
    unfold buildIdentifier? at h
    split at h
    · cases h
    split at h
    · rename_i hall
      obtain ⟨n, hn, rfl⟩ := Option.map_eq_some_iff.mp h
      exact .inl ⟨List.all_eq_true.mp hall, n, hn, rfl⟩
    · exact .inr (Option.some.inj h).symm
  rcases hread h with ⟨hcs, n, hn, rfl⟩ | rfl
  · rcases hread h' with ⟨hds, m, hm, hi⟩ | hi
    · obtain ⟨rfl, hlen⟩ := Identifier.number.inj hi
      exact Text.numeral?_inj hcs hds hlen hn hm
    · cases hi
  · rcases hread h' with ⟨-, m, -, hi⟩ | hi
    · cases hi
    · exact Identifier.word.inj hi

theorem preIdentifier_inj {cs ds : List Char} {i : Identifier}
    (h : preIdentifier? cs = some i) (h' : preIdentifier? ds = some i) : cs = ds := by
  have hbuild : ∀ {cs : List Char}, preIdentifier? cs = some i → buildIdentifier? cs = some i := by
    intro cs h
    unfold preIdentifier? at h
    split at h
    · cases h
    · exact h
  exact buildIdentifier_inj (hbuild h) (hbuild h')

/-- A list that is read element by element has one origin if its elements have. -/
theorem mapM_inj {α β : Type} {read : α → Option β}
    (hread : ∀ {a b : α} {x : β}, read a = some x → read b = some x → a = b) {as bs : List α}
    {xs : List β} (h : as.mapM read = some xs) (h' : bs.mapM read = some xs) : as = bs := by
  induction as generalizing bs xs with
  | nil =>
    cases h
    cases bs with
    | nil => rfl
    | cons b bs => simp [Option.bind_eq_some_iff] at h'
  | cons a as ih =>
    cases bs with
    | nil =>
      cases h'
      simp [Option.bind_eq_some_iff] at h
    | cons b bs =>
      simp only [List.mapM_cons, Option.bind_eq_bind, Option.bind_eq_some_iff, Option.pure_def,
        Option.some.injEq] at h h'
      obtain ⟨x, hx, ys, hys, rfl⟩ := h
      obtain ⟨y, hy, zs, hzs, hxy⟩ := h'
      obtain ⟨rfl, rfl⟩ := List.cons.inj hxy
      rw [hread hx hy, ih hys hzs]

/-- **Identifiers with points between them are known by their text**, and so is that there are
    none. -/
theorem identifiers_inj {read : List Char → Option Identifier}
    (hread : ∀ {cs ds : List Char} {i : Identifier}, read cs = some i → read ds = some i → cs = ds)
    {part part' : Option (List Char)} {is : List Identifier}
    (h : identifiers? read part = some is) (h' : identifiers? read part' = some is) :
    part = part' := by
  have hne : ∀ {cs : List Char}, (cs.splitOn '.').mapM read ≠ some [] := by
    intro cs h
    have hempty : ([] : List (List Char)).mapM read = some [] := rfl
    exact List.splitOn_ne_nil '.' cs (mapM_inj hread h hempty)
  cases part with
  | none =>
    cases h
    cases part' with
    | none => rfl
    | some ds => exact absurd h' hne
  | some cs =>
    cases part' with
    | none =>
      cases h'
      exact absurd h hne
    | some ds =>
      have hsplit : cs.splitOn '.' = ds.splitOn '.' := mapM_inj hread h h'
      have hjoined := congrArg (['.'].intercalate) hsplit
      rw [List.intercalate_splitOn, List.intercalate_splitOn] at hjoined
      rw [hjoined]

/-! ## 2. Texts -/

/-- A part behind its mark, if it is there. -/
def behind (mark : Char) : Option (List Char) → List Char
  | none => []
  | some cs => mark :: cs

theorem eq_of_cutAt (mark : Char) (cs : List Char) :
    (Text.cutAt mark cs).1 ++ behind mark (Text.cutAt mark cs).2 = cs := by
  induction cs with
  | nil => rfl
  | cons c cs ih =>
    rw [Text.cutAt]
    split
    · rename_i h
      rw [h]
      rfl
    · rw [List.cons_append, ih]

/-- **A text in the full form is read part by part.** -/
theorem ofChars?_eq_some_iff_parts {cs front core : List Char} {pre build : Option (List Char)}
    {v : Version} (hbuild : Text.cutAt '+' cs = (front, build))
    (hpre : Text.cutAt '-' front = (core, pre)) :
    ofChars? cs = some v ↔ ∃ a b c, core.splitOn '.' = [a, b, c] ∧
      numeral? a = some v.major ∧ numeral? b = some v.minor ∧ numeral? c = some v.patch ∧
      identifiers? preIdentifier? pre = some v.pre ∧
      identifiers? buildIdentifier? build = some v.build := by
  unfold ofChars?
  simp only [hbuild, hpre]
  constructor
  · intro h
    split at h
    · rename_i a b c hcore
      simp only [Option.bind_eq_bind, Option.bind_eq_some_iff, Option.pure_def,
        Option.some.injEq] at h
      obtain ⟨major, hmajor, minor, hminor, patch, hpatch, is, his, js, hjs, rfl⟩ := h
      exact ⟨a, b, c, hcore, hmajor, hminor, hpatch, his, hjs⟩
    · cases h
  · rintro ⟨a, b, c, hcore, hmajor, hminor, hpatch, his, hjs⟩
    simp only [hcore, hmajor, hminor, hpatch, his, hjs, Option.bind_eq_bind, Option.bind_some,
      Option.pure_def]

/-- **What a text in the full form is made of**, part by part. -/
theorem parts_of_ofChars {cs : List Char} {v : Version} (h : ofChars? cs = some v) :
    ∃ a b c pre build,
      cs = (['.'].intercalate [a, b, c] ++ behind '-' pre) ++ behind '+' build ∧
      numeral? a = some v.major ∧ numeral? b = some v.minor ∧ numeral? c = some v.patch ∧
      identifiers? preIdentifier? pre = some v.pre ∧
      identifiers? buildIdentifier? build = some v.build := by
  have hfront := eq_of_cutAt '-' (Text.cutAt '+' cs).1
  have hwhole := eq_of_cutAt '+' cs
  obtain ⟨a, b, c, hcore, hparts⟩ := (ofChars?_eq_some_iff_parts rfl rfl).mp h
  refine ⟨a, b, c, _, _, ?_, hparts⟩
  rw [← hcore, List.intercalate_splitOn, hfront, hwhole]

/-- **In the full form a version has one spelling.** -/
theorem ofChars?_inj {cs ds : List Char} {v : Version} (h : ofChars? cs = some v)
    (h' : ofChars? ds = some v) : cs = ds := by
  obtain ⟨a, b, c, pre, build, rfl, hmajor, hminor, hpatch, hpre, hbuild⟩ := parts_of_ofChars h
  obtain ⟨a', b', c', pre', build', rfl, hmajor', hminor', hpatch', hpre', hbuild'⟩ :=
    parts_of_ofChars h'
  rw [number_inj hmajor hmajor', number_inj hminor hminor', number_inj hpatch hpatch',
    identifiers_inj preIdentifier_inj hpre hpre',
    identifiers_inj buildIdentifier_inj hbuild hbuild']

/-- An operator's text in the full form: without blanks around it and one `v` in front, and with
    a patch number if it has none. -/
def completed (s : String) : List Char :=
  let cs := dropV (Text.trimChars s.toList)
  if (ofChars? cs).isSome then cs else cs ++ ['.', '0']

theorem read?_eq (s : String) : read? s = ofChars? (completed s) := by
  unfold read? completed
  dsimp only
  cases h : ofChars? (dropV (Text.trimChars s.toList)) with
  | none => simp
  | some v => simp [h]

/-- **Texts that are read are read alike exactly if they are completed alike.** -/
theorem read?_eq_iff {a b : String} {v w : Version} (ha : read? a = some v)
    (hb : read? b = some w) : v = w ↔ completed a = completed b := by
  rw [read?_eq] at ha hb
  constructor
  · rintro rfl
    exact ofChars?_inj ha hb
  · intro h
    rw [h, hb] at ha
    exact (Option.some.inj ha).symm

end DaprHosting.Version
