import DaprHosting.Proofs.Text.Trimmed
import DaprHosting.Proofs.Version.Grammar

/-!
# Which texts are read as versions

An operator's text that is not in the full form is tried again with `.0` behind it. Whatever is in
the text, that completes two numerals with a point between them and nothing else: in a part behind a
mark the zero becomes one more identifier, and the part can be read without it
(`identifiers?_of_retry`). So `read?_eq_some_iff` has two cases only, the full form and the short
one.
-/

namespace DaprHosting.Version

open Text (decimal cutAt cutAt_append cutAt_of_notMem)

/-! ## 1. The second try -/

/-- **A part that is read with `.0` behind it is read without.** -/
theorem identifiers?_of_retry {read : List Char → Option Identifier} {cs : List Char}
    {is : List Identifier} (h : identifiers? read (some (cs ++ ['.', '0'])) = some is) :
    ∃ js, identifiers? read (some cs) = some js := by
  rw [identifiers?, List.splitOn_append_cons_self, List.mapM_append] at h
  obtain ⟨js, hjs, -⟩ := Option.bind_eq_some_iff.mp h
  exact ⟨js, hjs⟩

/-- The short form is completed with a patch of zero. -/
theorem ShortForm.completed {cs : List Char} {v : Version} (h : ShortForm cs v) :
    FullForm (cs ++ ['.', '0']) v := by
  cases h with
  | @parts a b m n major minor =>
    have htext : ['.'].intercalate [a, b] ++ ['.', '0'] =
        ['.'].intercalate [a, b, ['0']] ++ marked '-' [] ++ marked '+' [] := by
      simp [List.intercalate_cons_cons, marked]
    rw [htext]
    have hzero : Numeral ['0'] 0 := by decide
    exact .parts major minor hzero .nil .nil

theorem ShortForm.ofChars? {cs : List Char} {v : Version} (h : ShortForm cs v) :
    ofChars? cs = none := by
  cases h with
  | @parts a b m n major minor =>
    have hnumerals : ∀ w ∈ [a, b], ∃ n, Numeral w n := major.cons (minor.cons nofun)
    have hplus := cutAt_of_notMem (notMem_numerals hnumerals (c := '+') (by decide) (by decide))
    have hhyphen := cutAt_of_notMem (notMem_numerals hnumerals (c := '-') (by decide) (by decide))
    refine Option.eq_none_iff_forall_ne_some.mpr fun w hw => ?_
    obtain ⟨a', b', c', hsplit, -⟩ := (ofChars?_eq_some_iff_parts hplus hhyphen).mp hw
    rw [splitOn_numerals hnumerals nofun] at hsplit
    cases hsplit

/-- **The second try completes the short form and no other text.** -/
theorem shortForm_of_retry {cs : List Char} {v : Version} (hnone : ofChars? cs = none)
    (h : ofChars? (cs ++ ['.', '0']) = some v) : ShortForm cs v := by
  have hread : ∀ w, ofChars? cs ≠ some w := by
    intro w hw
    rw [hnone] at hw
    cases hw
  by_cases hplus : '+' ∈ cs
  · -- the zero goes to the build
    obtain ⟨front, build, rfl, hfront⟩ := List.eq_append_cons_of_mem hplus
    rw [List.append_assoc, List.cons_append,
      ofChars?_eq_some_iff_parts (cutAt_append _ hfront) rfl] at h
    obtain ⟨a, b, c, hcore, hmajor, hminor, hpatch, hpre, hbuild⟩ := h
    obtain ⟨js, hjs⟩ := identifiers?_of_retry hbuild
    refine absurd ?_ (hread { v with build := js })
    exact (ofChars?_eq_some_iff_parts (cutAt_append build hfront) rfl).mpr
      ⟨a, b, c, hcore, hmajor, hminor, hpatch, hpre, hjs⟩
  have hplus' : '+' ∉ cs ++ ['.', '0'] := by simp [hplus]
  by_cases hhyphen : '-' ∈ cs
  · -- the zero goes to the pre-release
    obtain ⟨core, pre, rfl, hcore⟩ := List.eq_append_cons_of_mem hhyphen
    rw [ofChars?_eq_some_iff_parts (cutAt_of_notMem hplus')
      (by rw [List.append_assoc, List.cons_append, cutAt_append _ hcore])] at h
    obtain ⟨a, b, c, hsplit, hmajor, hminor, hpatch, hpre, hbuild⟩ := h
    obtain ⟨js, hjs⟩ := identifiers?_of_retry hpre
    refine absurd ?_ (hread { v with pre := js })
    exact (ofChars?_eq_some_iff_parts (cutAt_of_notMem hplus) (cutAt_append pre hcore)).mpr
      ⟨a, b, c, hsplit, hmajor, hminor, hpatch, hjs, hbuild⟩
  · -- the zero is the patch
    have hhyphen' : '-' ∉ cs ++ ['.', '0'] := by simp [hhyphen]
    rw [ofChars?_eq_some_iff_parts (cutAt_of_notMem hplus') (cutAt_of_notMem hhyphen')] at h
    obtain ⟨a, b, c, hsplit, hmajor, hminor, hpatch, hpre, hbuild⟩ := h
    have hzero : ['0'].splitOn '.' = [['0']] := by decide
    rw [List.splitOn_append_cons_self, hzero] at hsplit
    have hparts : cs.splitOn '.' ++ [['0']] = [a, b] ++ [c] := hsplit
    obtain ⟨hfront, hlast⟩ := List.append_inj' hparts rfl
    cases hlast
    have hcs : cs = ['.'].intercalate [a, b] := by rw [← hfront, List.intercalate_splitOn]
    obtain ⟨major, minor, patch, is, js⟩ := v
    cases hpatch
    cases hpre
    cases hbuild
    rw [hcs]
    exact .parts (numeral?_eq_some_iff.mp hmajor) (numeral?_eq_some_iff.mp hminor)

/-- **What no second try can mend**: a part behind a mark, a single number, or a number that is
    empty, padded with zeros or beyond 64 bits. -/
inductive Unfinished (cs : List Char) : Prop where
  | preRelease (h : '-' ∈ cs)
  | build (h : '+' ∈ cs)
  | single (h : '.' ∉ cs)
  | empty (h : [] ∈ cs.splitOn '.')
  | padded {ds : List Char} (h : '0' :: ds ∈ cs.splitOn '.') (hds : ds ≠ [])
  | great {n : Nat} (h : decimal n ∈ cs.splitOn '.') (hn : Word.max64 < n)

theorem Numeral.not_padded {ds : List Char} {n : Nat} (h : Numeral ('0' :: ds) n) : ds = [] := by
  have hzero := Text.decimal_of_head? (n := n) (by rw [← h.1]; rfl)
  rw [← h.1] at hzero
  exact (List.cons.inj hzero).2

theorem Numeral.le_of_decimal {m n : Nat} (h : Numeral (decimal m) n) : m ≤ Word.max64 := by
  have hread := Text.numeral?_decimal m
  rw [h.1, Text.numeral?_decimal] at hread
  exact Option.some.inj hread ▸ h.2

theorem ShortForm.not_unfinished {cs : List Char} {v : Version} (h : ShortForm cs v) :
    ¬ Unfinished cs := by
  cases h with
  | @parts a b m n major minor =>
    have hnumerals : ∀ w ∈ [a, b], ∃ n, Numeral w n := major.cons (minor.cons nofun)
    have hsplit := splitOn_numerals hnumerals nofun
    intro h
    cases h with
    | preRelease h => exact notMem_numerals hnumerals (by decide) (by decide) h
    | build h => exact notMem_numerals hnumerals (by decide) (by decide) h
    | single h => exact h (by simp [List.intercalate_cons_cons])
    | empty h =>
      rw [hsplit] at h
      obtain ⟨k, hk⟩ := hnumerals _ h
      exact Text.decimal_ne_nil k hk.1.symm
    | padded h hds =>
      rw [hsplit] at h
      obtain ⟨k, hk⟩ := hnumerals _ h
      exact hds hk.not_padded
    | great h hn =>
      rw [hsplit] at h
      obtain ⟨k, hk⟩ := hnumerals _ h
      exact Nat.not_lt.mpr hk.le_of_decimal hn

/-! ## 2. An operator's text -/

/-- What is read of an operator's text: it is trimmed, and may have one `v` in front. -/
def stripped (s : String) : List Char := dropV (Text.trimChars s.toList)

theorem read?_eq_some_iff {s : String} {v : Version} :
    read? s = some v ↔ FullForm (stripped s) v ∨ ShortForm (stripped s) v := by
  have hread : read? s =
      (ofChars? (stripped s)).orElse fun _ => ofChars? (stripped s ++ ['.', '0']) := rfl
  rw [hread, ← ofChars?_eq_some_iff]
  cases h : ofChars? (stripped s) with
  | none =>
    rw [Option.orElse_none]
    refine ⟨fun hretry => .inr (shortForm_of_retry h hretry), fun hform => ?_⟩
    rcases hform with hform | hform
    · cases hform
    · exact ofChars?_eq_some_iff.mpr hform.completed
  | some w =>
    rw [Option.orElse_some]
    refine ⟨.inl, fun hform => ?_⟩
    rcases hform with hform | hform
    · exact hform
    · rw [hform.ofChars?] at h
      cases h

/-- **A text that stands for itself**: it starts with a digit and has no blanks. -/
structure Bare (cs : List Char) : Prop where
  starts : ∃ d ds, cs = d :: ds ∧ d.isDigit = true
  unblank : ∀ c ∈ cs, Text.isBlank c = false

theorem isBlank_of_isIdentifierChar {c : Char} (h : isIdentifierChar c = true) :
    Text.isBlank c = false := by
  rw [← Bool.not_eq_true]
  intro hblank
  have houtside := Text.bounds_of_isBlank hblank
  simp only [isIdentifierChar, Text.isAsciiAlphanumeric, Bool.or_eq_true, decide_eq_true_eq] at h
  rcases h with (h | h) | rfl
  · obtain ⟨hlow, hhigh⟩ := Text.bounds_of_isAlpha h
    omega
  · obtain ⟨hlow, hhigh⟩ := Text.bounds_of_isDigit h
    omega
  · cases hblank

theorem bare_of_numerals {a rest : List Char} {ws : List (List Char)}
    (h : ∀ w ∈ a :: ws, ∃ n, Numeral w n) (hrest : ∀ c ∈ rest, Text.isBlank c = false) :
    Bare (['.'].intercalate (a :: ws) ++ rest) where
  starts := by
    obtain ⟨n, hn⟩ := h a (.head _)
    obtain ⟨d, ds, hds⟩ := List.exists_cons_of_ne_nil (Text.decimal_ne_nil n)
    rw [← hn.1] at hds
    have hdigit := hn.isDigit d (by rw [hds]; exact .head _)
    subst hds
    cases ws with
    | nil => exact ⟨d, ds ++ rest, by rw [List.intercalate_singleton, List.cons_append], hdigit⟩
    | cons w ws =>
      exact ⟨d, ds ++ ['.'] ++ ['.'].intercalate (w :: ws) ++ rest,
        by rw [List.intercalate_cons_cons]; rfl, hdigit⟩
  unblank c hc := by
    rcases List.mem_append.mp hc with hc | hc
    · rcases of_mem_numerals h hc with rfl | hdigit
      · rfl
      · exact isBlank_of_isIdentifierChar (isIdentifierChar_of_isDigit hdigit)
    · exact hrest c hc

theorem isBlank_of_mem_marked {written : List Char → Identifier → Prop}
    (hchars : ∀ {cs i}, written cs i → ∀ c ∈ cs, isIdentifierChar c = true) {mark : Char}
    (hmark : Text.isBlank mark = false) {ws : List (List Char)} {is : List Identifier}
    (h : List.Forall₂ written ws is) : ∀ c ∈ marked mark ws, Text.isBlank c = false := by
  intro c hc
  rcases of_mem_marked hchars h hc with rfl | rfl | hc
  · exact hmark
  · rfl
  · exact isBlank_of_isIdentifierChar hc

theorem FullForm.bare {cs : List Char} {v : Version} (h : FullForm cs v) : Bare cs := by
  cases h with
  | @parts a b c pre build v hmajor hminor hpatch hpre hbuild =>
    rw [List.append_assoc]
    refine bare_of_numerals (hmajor.cons (hminor.cons (hpatch.cons nofun))) ?_
    rw [List.forall_mem_append]
    exact ⟨isBlank_of_mem_marked (fun h => h.1.chars) rfl hpre,
      isBlank_of_mem_marked (fun h => h.chars) rfl hbuild⟩

theorem ShortForm.bare {cs : List Char} {v : Version} (h : ShortForm cs v) : Bare cs := by
  cases h with
  | @parts a b m n major minor =>
    rw [← List.append_nil (['.'].intercalate [a, b])]
    exact bare_of_numerals (major.cons (minor.cons nofun)) nofun

/-- **Blanks around a version and a `v` in front of it are stripped.** -/
theorem Bare.stripped_surrounded {cs front back mark : List Char} (h : Bare cs)
    (hfront : ∀ c ∈ front, Text.isBlank c = true) (hback : ∀ c ∈ back, Text.isBlank c = true)
    (hmark : mark ∈ [[], ['v']]) :
    stripped (String.ofList (front ++ (mark ++ cs) ++ back)) = cs := by
  obtain ⟨d, ds, rfl, hdigit⟩ := h.starts
  have hunblank : ∀ c ∈ mark ++ d :: ds, Text.isBlank c = false := by
    refine List.forall_mem_append.mpr ⟨fun c hc => ?_, h.unblank⟩
    simp only [List.mem_cons, List.not_mem_nil, or_false] at hmark
    rcases hmark with rfl | rfl
    · cases hc
    · rw [List.mem_singleton.mp hc]
      rfl
  have htrim := Text.trimChars_surrounded hfront hback
    (fun c hc => hunblank c (List.mem_of_mem_head? hc))
    (fun c hc => hunblank c (List.mem_of_mem_getLast? hc))
  rw [stripped, String.toList_ofList, htrim]
  simp only [List.mem_cons, List.not_mem_nil, or_false] at hmark
  rcases hmark with rfl | rfl
  · have hd : d ≠ 'v' := by
      rintro rfl
      cases hdigit
    rw [List.nil_append, dropV]
    exact fun cs e => hd (List.cons.inj e).1
  · rfl

/-! ## 3. All texts -/

/-- **Which texts are read as versions, and as which.**

    What is left of a text without the blanks around it and one `v` in front is a version in the
    full form, or else in the short form, and is read as the version that is written. The short form
    is read as if `.0` stood behind it, and is never the full form of another version. A text that
    becomes a version when `.0` is put behind it was one before or is in the short form: no text
    that has a part behind a mark, a single number, or a number that is empty, padded or too great
    is read by being completed. -/
theorem versions_are_read :
    (∀ (s : String) (v : Version),
      read? s = some v ↔ FullForm (stripped s) v ∨ ShortForm (stripped s) v) ∧
    (∀ (cs : List Char) (v : Version), FullForm cs v ∨ ShortForm cs v →
      ∀ front back, (∀ c ∈ front, Text.isBlank c = true) → (∀ c ∈ back, Text.isBlank c = true) →
        ∀ mark ∈ [[], ['v']], stripped (String.ofList (front ++ (mark ++ cs) ++ back)) = cs) ∧
    (∀ (cs : List Char) (v : Version), ShortForm cs v →
      FullForm (cs ++ ['.', '0']) v ∧ ∀ w, ¬ FullForm cs w) ∧
    (∀ (cs : List Char) (v : Version), FullForm (cs ++ ['.', '0']) v →
      (∃ w, FullForm cs w) ∨ ShortForm cs v) ∧
    ∀ (s : String) (v : Version), Unfinished (stripped s) → read? s = some v →
      FullForm (stripped s) v := by
  refine ⟨fun s v => read?_eq_some_iff, fun cs v h front back hfront hback mark hmark => ?_,
    fun cs v h => ⟨h.completed, fun w hw => ?_⟩, fun cs v h => ?_, fun s v hun h => ?_⟩
  · exact (h.elim FullForm.bare ShortForm.bare).stripped_surrounded hfront hback hmark
  · rw [← ofChars?_eq_some_iff, h.ofChars?] at hw
    cases hw
  · cases hread : ofChars? cs with
    | none => exact .inr (shortForm_of_retry hread (ofChars?_eq_some_iff.mpr h))
    | some w => exact .inl ⟨w, ofChars?_eq_some_iff.mp hread⟩
  · exact (read?_eq_some_iff.mp h).resolve_right fun hshort => hshort.not_unfinished hun

/-- A short text between blanks, and one with a padded identifier that a zero does not mend. -/
theorem versions_are_read_short_and_padded :
    let v : Version := ⟨1, 12, 0, [], []⟩
    ShortForm ['1', '.', '1', '2'] v ∧ stripped " v1.12\n" = ['1', '.', '1', '2'] ∧
      read? " v1.12\n" = some v ∧ FullForm "1.12.0".toList v ∧
      Unfinished (stripped "1.12.0-rc.01") ∧ read? "1.12.0-rc.01" = none := by
  intro v
  have hshort : ShortForm ['1', '.', '1', '2'] v :=
    .parts (a := ['1']) (b := ['1', '2']) (by decide) (by decide)
  have hstripped : stripped " v1.12\n" = ['1', '.', '1', '2'] :=
    versions_are_read.2.1 _ v (.inr hshort) [' '] ['\n'] (List.all_eq_true.mp rfl)
      (List.all_eq_true.mp rfl) ['v'] (by decide)
  have hun : Unfinished (stripped "1.12.0-rc.01") := .preRelease (by decide)
  refine ⟨hshort, hstripped, ?_, (versions_are_read.2.2.1 _ v hshort).1, hun, ?_⟩
  · exact (versions_are_read.1 _ v).mpr (.inr (hstripped ▸ hshort))
  · refine Option.eq_none_iff_forall_ne_some.mpr fun w hw => ?_
    have hfull := versions_are_read.2.2.2.2 _ w hun hw
    rw [← ofChars?_eq_some_iff] at hfull
    have hnone : ofChars? (stripped "1.12.0-rc.01") = none := by decide
    rw [hnone] at hfull
    cases hfull

end DaprHosting.Version
