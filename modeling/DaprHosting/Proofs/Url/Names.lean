import DaprHosting.Proofs.Url.Segments
import DaprHosting.Url.Append

/-!
# Names behind a path

A name that is appended to a path becomes one segment, whatever signs it holds: they are encoded,
and decoding the segment gives the name. Two kinds of name do not: the dot segments, and names with
characters that are dropped (`IsName` rules them out). Both lose something for good, since a path
gets at most one segment a name: by `names_appended_iff` the names are read again exactly when all
of them are names.
-/

namespace DaprHosting.Url

open Text

/-! ## 1. Names and how they are written -/

/-- **A name that stands for itself**: it is no dot segment, and nothing in it is dropped. -/
def IsName (name : List Char) : Prop :=
  name ≠ ['.'] ∧ name ≠ ['.', '.'] ∧ ∀ c ∈ name, isSkipped c = false

instance (name : List Char) : Decidable (IsName name) :=
  have : Decidable (∀ c ∈ name, isSkipped c = false) := List.decidableBAll _ _
  instDecidableAnd

/-- The characters of a name that are not dropped. -/
def kept (name : List Char) : List Char := name.filter fun c => !isSkipped c

/-- A name as it is written. -/
def written (name : List Char) : List Char := percentEncode (segmentSet true) (kept name)

theorem kept_eq_self_iff {name : List Char} : kept name = name ↔ ∀ c ∈ name, isSkipped c = false := by
  rw [kept, List.filter_eq_self]
  simp only [Bool.not_eq_true']

theorem percentDecode_written (name : List Char) : percentDecode (written name) = utf8 (kept name) :=
  percentDecode_percentEncode rfl (kept name)

theorem unbroken_written (name : List Char) : Unbroken (written name) := by
  refine unbroken_percentEncode (fun c hc => ?_) (.inr rfl)
  have hsign : c = '?' ∨ c = '#' := by simpa [endsPath] using hc
  rcases hsign with rfl | rfl <;> rfl

/-! ## 2. Dot segments -/

theorem toNat_toLower (c : Char) :
    c.toLower.toNat = if 65 ≤ c.toNat ∧ c.toNat ≤ 90 then c.toNat + 32 else c.toNat := by
  unfold Char.toLower
  by_cases h : c.val ≥ 'A'.val ∧ c.val ≤ 'Z'.val
  · have h' : 65 ≤ c.toNat ∧ c.toNat ≤ 90 := h
    have hlt : c.val.toNat + 32 < 4294967296 := Nat.lt_of_le_of_lt (Nat.add_le_add_right h'.2 32)
      (by decide)
    rw [dif_pos h, if_pos h']
    exact (UInt32.toNat_add c.val 32).trans (Nat.mod_eq_of_lt hlt)
  · have h' : ¬ (65 ≤ c.toNat ∧ c.toNat ≤ 90) := h
    rw [dif_neg h, if_neg h']

/-- Only letters are the lower case of another character. -/
theorem eq_of_toLower_eq {c d : Char} (h : c.toLower = d) (hd : d.toNat < 97) : c = d := by
  have hnat := toNat_toLower c
  rw [h] at hnat
  split at hnat
  · omega
  · exact Char.toNat_inj.mp hnat.symm

theorem hexDigit?_of_toLower_eq {c : Char} (h : c.toLower = 'e') : hexDigit? c = some 14 := by
  have hnat : 101 = _ := h ▸ toNat_toLower c
  split at hnat
  · have hc : c = 'E' := Char.toNat_inj.mp (by rw [← Nat.add_right_cancel_iff, ← hnat]; rfl)
    rw [hc]
    rfl
  · have hc : c = 'e' := Char.toNat_inj.mp hnat.symm
    rw [hc]
    rfl

/-- A point in one of its spellings is decoded to a point. -/
theorem percentDecode_point {s : List Char}
    (h : s.map Char.toLower = ['.'] ∨ s.map Char.toLower = ['%', '2', 'e']) (cs : List Char) :
    percentDecode (s ++ cs) = utf8 ['.'] ++ percentDecode cs := by
  rcases h with h | h
  · obtain ⟨c, rest, rfl, hc, hrest⟩ := List.map_eq_cons_iff.mp h
    rw [List.map_eq_nil_iff.mp hrest, eq_of_toLower_eq hc (by decide)]
    exact percentDecode_cons_of_ne (by decide) cs
  · obtain ⟨c, rest, rfl, hc, hrest⟩ := List.map_eq_cons_iff.mp h
    obtain ⟨d, rest, rfl, hd, hrest⟩ := List.map_eq_cons_iff.mp hrest
    obtain ⟨e, rest, rfl, he, hrest⟩ := List.map_eq_cons_iff.mp hrest
    rw [List.map_eq_nil_iff.mp hrest, eq_of_toLower_eq hc (by decide),
      eq_of_toLower_eq hd (by decide)]
    have hbyte : byteOfDigits? '2' e = some 0x2E := by
      rw [byteOfDigits?, hexDigit?_of_toLower_eq he]
      rfl
    simp only [List.cons_append, List.nil_append, percentDecode, if_true, hbyte]
    rfl

theorem percentDecode_of_isSingleDot {s : List Char} (h : isSingleDot s = true) :
    percentDecode s = utf8 ['.'] := by
  have hpoint : s.map Char.toLower = ['.'] ∨ s.map Char.toLower = ['%', '2', 'e'] := by
    rcases Bool.or_eq_true_iff.mp h with h | h
    · exact .inl (by rw [eq_of_beq h]; rfl)
    · exact .inr (eq_of_beq h)
  rw [← List.append_nil s, percentDecode_point hpoint]
  rfl

theorem percentDecode_of_isDoubleDot {s : List Char} (h : isDoubleDot s = true) :
    percentDecode s = utf8 ['.', '.'] := by
  simp only [isDoubleDot, List.any_eq_true, List.mem_cons, List.not_mem_nil, or_false] at h
  obtain ⟨a, ha, b, hb, h⟩ := h
  obtain ⟨s, t, rfl, rfl, rfl⟩ := List.map_eq_append_iff.mp (eq_of_beq h)
  rw [percentDecode_point ha, ← List.append_nil t, percentDecode_point hb]
  rfl

theorem kept_of_isSingleDot {name : List Char} (h : isSingleDot (written name) = true) :
    kept name = ['.'] :=
  utf8_injective ((percentDecode_written name).symm.trans (percentDecode_of_isSingleDot h))

theorem kept_of_isDoubleDot {name : List Char} (h : isDoubleDot (written name) = true) :
    kept name = ['.', '.'] :=
  utf8_injective ((percentDecode_written name).symm.trans (percentDecode_of_isDoubleDot h))

/-! ## 3. One name -/

section One

variable {scheme : List Char} (hs : IsWebScheme scheme) {path : List (List Char)}
  {name : List Char}

include hs

/-- What is added for a name that is not skipped. -/
theorem appendName_of_not_dot (h : ¬ (name = ['.'] ∨ name = ['.', '.'])) :
    appendName scheme path name =
      addSegment false true (if isRoot path then [] else path) (written name) := by
  simp only [appendName, if_neg h, hs.notFile, hs.special, Bool.false_eq_true, if_false]
  rfl

/-- **A name becomes the next segment**, encoded. -/
theorem appendName_of_isName (h : IsName name) :
    appendName scheme path name = (if isRoot path then [] else path) ++ [written name] := by
  obtain ⟨hone, htwo, hkept⟩ := h
  have hself := kept_eq_self_iff.mpr hkept
  have hsingle : isSingleDot (written name) = false :=
    Bool.eq_false_iff.mpr fun e => hone (hself ▸ kept_of_isSingleDot e)
  have hdouble : isDoubleDot (written name) = false :=
    Bool.eq_false_iff.mpr fun e => htwo (hself ▸ kept_of_isDoubleDot e)
  rw [appendName_of_not_dot hs (not_or.mpr ⟨hone, htwo⟩)]
  simp only [addSegment, hsingle, hdouble, Bool.false_and, Bool.false_eq_true, if_false]

/-- **What a path gets for a name**: at most one segment, and one that is read as the name only if
    it is a name. -/
theorem appendName_cases (hpath : path ≠ []) (name : List Char) :
    (appendName scheme path name).length ≤ path.length ∨
      ∃ s, appendName scheme path name = path ++ [s] ∧
        (percentDecode s = utf8 name → IsName name) := by
  by_cases hdot : name = ['.'] ∨ name = ['.', '.']
  · rw [appendName, if_pos hdot]
    exact .inl (Nat.le_refl _)
  rw [appendName_of_not_dot hs hdot]
  by_cases hroot : isRoot path = true
  · rw [if_pos hroot]
    left
    have hone : 1 ≤ path.length := List.length_pos_iff.mpr hpath
    simp only [addSegment, Bool.false_and, Bool.false_eq_true, if_false, if_true]
    split
    · exact hone
    split
    · exact hone
    · exact hone
  rw [if_neg hroot]
  simp only [addSegment, Bool.false_and, Bool.false_eq_true, if_false, if_true]
  by_cases hdouble : isDoubleDot (written name) = true
  · rw [if_pos hdouble]
    left
    rw [List.length_append, List.length_dropLast]
    exact Nat.le_of_eq (Nat.sub_add_cancel (List.length_pos_iff.mpr hpath))
  rw [if_neg hdouble]
  right
  by_cases hsingle : isSingleDot (written name) = true
  · rw [if_pos hsingle]
    -- only the empty name is written as the segment that is left behind, and it is no dot
    refine ⟨[], rfl, fun h => ?_⟩
    have hname : [] = name := utf8_injective h
    subst hname
    cases hsingle
  · rw [if_neg hsingle]
    refine ⟨written name, rfl, fun h => ?_⟩
    have hkept : kept name = name := utf8_injective ((percentDecode_written name).symm.trans h)
    obtain ⟨hone, htwo⟩ := not_or.mp hdot
    exact ⟨hone, htwo, kept_eq_self_iff.mp hkept⟩

end One

/-! ## 4. Names in a row -/

section All

variable {scheme : List Char} (hs : IsWebScheme scheme)

include hs

/-- Names in a row become segments in a row. -/
theorem appendNames_of_isName {names path : List (List Char)} (hnames : ∀ n ∈ names, IsName n)
    (hne : path ≠ []) (hroot : path ≠ [[]]) :
    names.foldl (appendName scheme) path = path ++ names.map written := by
  induction names generalizing path with
  | nil => exact (List.append_nil path).symm
  | cons n names ih =>
    have hnext : path ++ [written n] ≠ [[]] := by
      obtain ⟨s, rest, rfl⟩ := List.exists_cons_of_ne_nil hne
      simp
    have hkeep : isRoot path = false := beq_eq_false_iff_ne.mpr hroot
    rw [List.foldl_cons, appendName_of_isName hs (hnames n (List.mem_cons_self ..)), hkeep,
      if_neg Bool.false_ne_true,
      ih (fun m hm => hnames m (List.mem_cons_of_mem _ hm)) (List.concat_ne_nil _ _) hnext,
      List.append_assoc]
    rfl

theorem appendName_ne_nil {path : List (List Char)} (hne : path ≠ []) (name : List Char) :
    appendName scheme path name ≠ [] := by
  by_cases hdot : name = ['.'] ∨ name = ['.', '.']
  · rwa [appendName, if_pos hdot]
  · rw [appendName_of_not_dot hs hdot]
    exact addSegment_last_ne_nil _ _

theorem length_appendName_le {path : List (List Char)} (hne : path ≠ []) (name : List Char) :
    (appendName scheme path name).length ≤ path.length + 1 := by
  rcases appendName_cases hs hne name with h | ⟨s, h, -⟩
  · exact Nat.le_succ_of_le h
  · rw [h, List.length_append]
    exact Nat.le_refl _

/-- A path gets at most one segment a name. -/
theorem length_appendNames_le {path : List (List Char)} (hne : path ≠ [])
    (names : List (List Char)) :
    (names.foldl (appendName scheme) path).length ≤ path.length + names.length := by
  induction names generalizing path with
  | nil => exact Nat.le_refl _
  | cons n names ih =>
    have hrest := ih (appendName_ne_nil hs hne n)
    have hstep := length_appendName_le hs hne n
    rw [List.foldl_cons, List.length_cons]
    omega

/-- Where every name gives a segment, nothing is taken back. -/
theorem isPrefix_appendNames {names path : List (List Char)} (hne : path ≠ [])
    (hlen : (names.foldl (appendName scheme) path).length = path.length + names.length) :
    path <+: names.foldl (appendName scheme) path := by
  induction names generalizing path with
  | nil => exact List.prefix_refl path
  | cons n names ih =>
    rw [List.foldl_cons, List.length_cons] at hlen
    have hrest := length_appendNames_le hs (appendName_ne_nil hs hne n) names
    have hfull : path.length < (appendName scheme path n).length := by omega
    obtain h | ⟨s, hstep, -⟩ := appendName_cases hs hne n
    · omega
    · rw [hstep] at hlen
      rw [List.foldl_cons, hstep]
      refine (List.prefix_append path [s]).trans (ih (List.concat_ne_nil _ _) ?_)
      rw [hlen, List.length_append, List.length_singleton]
      omega

/-- **The names behind a path are read again exactly when all of them are names.** A name that is
    none costs its segment, or is changed in it, and no other name makes up for this. -/
theorem names_appended_iff {names path : List (List Char)} (hne : path ≠ []) (hroot : path ≠ [[]]) :
    (names.foldl (appendName scheme) path).map percentDecode =
        path.map percentDecode ++ names.map utf8 ↔
      ∀ n ∈ names, IsName n := by
  constructor
  · intro h
    have hlen := congrArg List.length h
    simp only [List.length_map, List.length_append] at hlen
    clear hroot
    induction names generalizing path with
    | nil => exact nofun
    | cons n names ih =>
      rw [List.foldl_cons, List.length_cons] at hlen
      have hrest := length_appendNames_le hs (appendName_ne_nil hs hne n) names
      obtain hshort | ⟨s, hstep, hname⟩ := appendName_cases hs hne n
      · omega
      rw [List.foldl_cons, hstep] at h
      rw [hstep] at hlen
      have hlen' : (names.foldl (appendName scheme) (path ++ [s])).length =
          (path ++ [s]).length + names.length := by
        rw [hlen, List.length_append, List.length_singleton]
        omega
      have hprefix := (isPrefix_appendNames hs (List.concat_ne_nil s path) hlen').map percentDecode
      rw [h, List.map_append] at hprefix
      have hread : percentDecode s = utf8 n := by
        have hhead := (List.prefix_append_right_inj _).mp hprefix
        simpa using hhead
      have hothers := ih (List.concat_ne_nil s path) (by
        rw [h, List.map_append, List.map_singleton, hread, List.append_assoc]
        rfl) hlen'
      intro m hm
      rcases List.mem_cons.mp hm with rfl | hm
      · exact hname hread
      · exact hothers m hm
  · intro hnames
    rw [appendNames_of_isName hs hnames hne hroot, List.map_append, List.map_map]
    congr 1
    refine List.map_congr_left fun n hn => ?_
    rw [Function.comp_apply, percentDecode_written, kept_eq_self_iff.mpr (hnames n hn).2.2]

end All

/-! ## 5. Whole URLs -/

/-- **What a path says**: what lies between its slashes, decoded. -/
def pieces (u : Url) : List (List UInt8) := u.pathPieces.map percentDecode

/-- A list without an empty piece at its end. -/
def withoutEmptyEnd {α : Type} [DecidableEq α] (ss : List (List α)) : List (List α) :=
  if ss.getLast? = some [] then ss.dropLast else ss

/-- The first name replaces an empty segment at the end of the path. -/
theorem startOfPath_eq {ss : List (List Char)} (hinner : ∀ s ∈ ss.dropLast, s ≠ []) :
    (if isRoot (dropEmptyEnd ss) then [] else dropEmptyEnd ss) = withoutEmptyEnd ss := by
  by_cases hlast : ss.getLast? = some []
  · obtain ⟨front, rfl⟩ := List.getLast?_eq_some_iff.mp hlast
    rw [List.dropLast_concat] at hinner
    rw [withoutEmptyEnd, if_pos hlast, List.dropLast_concat]
    cases front with
    | nil => rfl
    | cons s front =>
      have htwo : 2 ≤ (s :: front ++ [[]]).length := by simp
      have hdrop : dropEmptyEnd (s :: front ++ [[]]) = s :: front := by
        rw [dropEmptyEnd, if_pos ⟨htwo, hlast⟩, List.dropLast_concat]
      have hroot : isRoot (s :: front) = false := by
        refine beq_eq_false_iff_ne.mpr fun e => hinner s (List.mem_cons_self ..) ?_
        exact (List.cons.inj e).1
      rw [hdrop, hroot, if_neg Bool.false_ne_true]
  · have hdrop : dropEmptyEnd ss = ss := if_neg fun h => hlast h.2
    have hroot : isRoot ss = false := by
      refine beq_eq_false_iff_ne.mpr fun e => hlast ?_
      rw [e]
      rfl
    rw [withoutEmptyEnd, if_neg hlast, hdrop, hroot, if_neg Bool.false_ne_true]

theorem withoutEmptyEnd_map_percentDecode (ss : List (List Char)) :
    withoutEmptyEnd (ss.map percentDecode) = (withoutEmptyEnd ss).map percentDecode := by
  have hlast : (ss.map percentDecode).getLast? = some [] ↔ ss.getLast? = some [] := by
    rw [List.getLast?_map, Option.map_eq_some_iff]
    constructor
    · rintro ⟨s, h, hs⟩
      rwa [not_imp_not.mp percentDecode_ne_nil hs] at h
    · exact fun h => ⟨[], h, rfl⟩
  rw [withoutEmptyEnd, withoutEmptyEnd]
  simp only [hlast]
  split
  · exact List.map_dropLast.symm
  · rfl

section Web

variable {u : Url} (hu : Web u)

include hu

theorem Web.pieces_eq : u.pieces = u.segments.map percentDecode := by
  rw [pieces, pathPieces_of_unbroken hu.path hu.nonempty hu.unbroken]

theorem path_appendNames (names : List (List Char)) :
    (u.appendNames names).path =
      .segments (names.foldl (appendName u.scheme) (dropEmptyEnd u.segments)) := by
  rw [appendNames, hu.path]

theorem appendName_unbroken {path : List (List Char)} (hpath : ∀ s ∈ path, Unbroken s)
    (name : List Char) : ∀ s ∈ appendName u.scheme path name, Unbroken s := by
  by_cases hdot : name = ['.'] ∨ name = ['.', '.']
  · rwa [appendName, if_pos hdot]
  · rw [appendName_of_not_dot hu.scheme hdot]
    intro s hmem
    rcases mem_of_mem_addSegment hmem with hmem | rfl | rfl
    · split at hmem
      · cases hmem
      · exact hpath s hmem
    · exact unbroken_written name
    · exact unbroken_nil

theorem foldl_appendName_unbroken (names : List (List Char)) {path : List (List Char)}
    (hne : path ≠ []) (hpath : ∀ s ∈ path, Unbroken s) :
    names.foldl (appendName u.scheme) path ≠ [] ∧
      ∀ s ∈ names.foldl (appendName u.scheme) path, Unbroken s := by
  induction names generalizing path with
  | nil => exact ⟨hne, hpath⟩
  | cons n names ih =>
    exact ih (appendName_ne_nil hu.scheme hne n) (appendName_unbroken hu hpath n)

theorem dropEmptyEnd_unbroken :
    dropEmptyEnd u.segments ≠ [] ∧ ∀ s ∈ dropEmptyEnd u.segments, Unbroken s := by
  unfold dropEmptyEnd
  split
  · rename_i h
    refine ⟨fun e => ?_, fun s hmem => hu.unbroken s ((List.dropLast_sublist _).subset hmem)⟩
    have hlen := congrArg List.length e
    rw [List.length_dropLast, List.length_nil] at hlen
    omega
  · exact ⟨hu.nonempty, hu.unbroken⟩

/-- **A URL of the web stays one** when names are appended to it. -/
theorem web_appendNames (names : List (List Char)) : Web (u.appendNames names) := by
  have hsegments : (u.appendNames names).segments =
      names.foldl (appendName u.scheme) (dropEmptyEnd u.segments) := by
    rw [segments, path_appendNames hu]
  have hscheme : (u.appendNames names).scheme = u.scheme := by rw [appendNames, hu.path]
  have hauthority : (u.appendNames names).authority = u.authority := by
    rw [appendNames, hu.path]
  obtain ⟨hne, hunbroken⟩ :=
    foldl_appendName_unbroken hu names (dropEmptyEnd_unbroken hu).1 (dropEmptyEnd_unbroken hu).2
  exact ⟨hscheme ▸ hu.scheme, hauthority ▸ hu.authority,
    by rw [path_appendNames hu, hsegments], hsegments ▸ hne, hsegments ▸ hunbroken⟩

variable (hinner : ∀ s ∈ u.segments.dropLast, s ≠ []) {first : List Char} (hfirst : IsName first)

include hinner hfirst

theorem segments_appendNames (names : List (List Char)) :
    (u.appendNames (first :: names)).segments =
      names.foldl (appendName u.scheme) (withoutEmptyEnd u.segments ++ [written first]) := by
  rw [segments, path_appendNames hu, List.foldl_cons, appendName_of_isName hu.scheme hfirst,
    startOfPath_eq hinner]

/-- **A path with names appended says what it said and then the names**, exactly when all of them
    are names. -/
theorem pieces_appendNames_iff (hne : first ≠ []) (names : List (List Char)) :
    (u.appendNames (first :: names)).pieces =
        withoutEmptyEnd u.pieces ++ (first :: names).map utf8 ↔
      ∀ n ∈ names, IsName n := by
  have hkept := kept_eq_self_iff.mpr hfirst.2.2
  have hread : percentDecode (written first) = utf8 first := by
    rw [percentDecode_written, hkept]
  have hroot : withoutEmptyEnd u.segments ++ [written first] ≠ [[]] := by
    intro e
    obtain ⟨-, hlast⟩ := List.append_inj' (e.trans (List.nil_append [[]]).symm) rfl
    rw [(List.cons.inj hlast).1] at hread
    have hempty : utf8 [] = utf8 first := hread
    exact hne (utf8_injective hempty).symm
  rw [(web_appendNames hu _).pieces_eq, segments_appendNames hu hinner hfirst, hu.pieces_eq,
    withoutEmptyEnd_map_percentDecode,
    ← names_appended_iff hu.scheme (List.concat_ne_nil _ _) hroot, List.map_append,
    List.map_singleton, hread, List.append_assoc]
  rfl

end Web

end DaprHosting.Url
