import DaprHosting.Proofs.Url.Percent
import DaprHosting.Url.Reader

/-!
# The segments of a URL that was read

The reader splits a path before it encodes the pieces, so no segment of what it reads holds a sign
that would end the segment or the path (`Unbroken`). The text of such a path falls into its
segments again, by `pieces_of_unbroken`. `Web` collects what the reader leaves for the two schemes
of the web; `web_of_read` says that it does.
-/

namespace DaprHosting.Url

/-! ## 1. Segments in a text -/

/-- **A segment that stays one**: nothing in it ends a segment or a path. -/
def Unbroken (s : List Char) : Prop := ∀ c ∈ s, c ≠ '/' ∧ endsPath c = false

theorem unbroken_nil : Unbroken [] := nofun

/-- What is encoded is unbroken if the slash is encoded or was not there. -/
theorem unbroken_percentEncode {set : Char → Bool} (hset : ∀ c, endsPath c = true → set c = true)
    {cs : List Char} (hcs : '/' ∉ cs ∨ set '/' = true) : Unbroken (percentEncode set cs) := by
  intro c hc
  constructor
  · rintro rfl
    obtain ⟨hmem, hout⟩ := mem_of_mem_percentEncode hc (by decide) (by decide)
    rcases hcs with hcs | hcs
    · exact hcs hmem
    · rw [hcs] at hout
      cases hout
  · by_contra hends
    rw [Bool.not_eq_false] at hends
    have hsign : c = '?' ∨ c = '#' := by simpa [endsPath] using hends
    obtain ⟨-, hout⟩ := mem_of_mem_percentEncode hc (by rcases hsign with rfl | rfl <;> decide)
      (by rcases hsign with rfl | rfl <;> decide)
    rw [hset c hends] at hout
    cases hout

/-- What a list is split at stands in none of the pieces. -/
theorem notMem_of_mem_splitOn {a : Char} {cs piece : List Char} (h : piece ∈ cs.splitOn a) :
    a ∉ piece := by
  induction cs generalizing piece with
  | nil =>
    rw [List.splitOn_nil, List.mem_singleton] at h
    subst h
    exact List.not_mem_nil
  | cons c cs ih =>
    rw [List.splitOn_cons_eq_if_modifyHead] at h
    split at h
    · rcases List.mem_cons.mp h with rfl | h
      · exact List.not_mem_nil
      · exact ih h
    · rename_i hc
      obtain ⟨p, ps, hps⟩ := List.exists_cons_of_ne_nil (List.splitOn_ne_nil a cs)
      rw [hps] at h ih
      rcases List.mem_cons.mp h with rfl | h
      · have hp := ih (List.mem_cons_self ..)
        intro ha
        rcases List.mem_cons.mp ha with rfl | ha
        · exact hc (beq_self_eq_true _)
        · exact hp ha
      · exact ih (List.mem_cons_of_mem _ h)

/-- What lies between the slashes of a path, the first apart. -/
def pathPieces (u : Url) : List (List Char) := (u.path.toChars.drop 1).splitOn '/'

theorem segmentChars_cons (s : List Char) (ss : List (List Char)) :
    segmentChars (s :: ss) = '/' :: ['/'].intercalate (s :: ss) := by
  induction ss generalizing s with
  | nil => simp [segmentChars, List.intercalate]
  | cons t ss ih =>
    have hrest : segmentChars (s :: t :: ss) = '/' :: (s ++ segmentChars (t :: ss)) := rfl
    rw [hrest, ih t, List.intercalate_cons_cons]
    simp

/-- **The text of a path falls into its segments.** -/
theorem pathPieces_of_unbroken {u : Url} {ss : List (List Char)} (hpath : u.path = .segments ss)
    (hne : ss ≠ []) (hss : ∀ s ∈ ss, Unbroken s) : u.pathPieces = ss := by
  obtain ⟨s, rest, rfl⟩ := List.exists_cons_of_ne_nil hne
  have hsplit : (['/'].intercalate (s :: rest)).splitOn '/' = s :: rest :=
    List.splitOn_intercalate '/' (fun t ht hc => (hss t ht '/' hc).1 rfl) hne
  rw [pathPieces, hpath, Path.toChars, segmentChars_cons, List.drop_one, List.tail_cons, hsplit]

/-- Nothing in such a path ends it. -/
theorem endsPath_of_mem_segmentChars {ss : List (List Char)} (hss : ∀ s ∈ ss, Unbroken s) {c : Char}
    (hc : c ∈ segmentChars ss) : endsPath c = false := by
  obtain ⟨s, hs, hc⟩ := List.mem_flatMap.mp hc
  rcases List.mem_cons.mp hc with rfl | hc
  · rfl
  · exact (hss s hs c hc).2

/-! ## 2. Segments that are added -/

/-- Adding a segment brings in this one or an empty one. -/
theorem mem_of_mem_addSegment {isLast : Bool} {path : List (List Char)} {s t : List Char}
    (h : t ∈ addSegment false isLast path s) : t ∈ path ∨ t = s ∨ t = [] := by
  have hup : ∀ {t}, t ∈ path.dropLast → t ∈ path := fun h => (List.dropLast_sublist path).subset h
  simp only [addSegment, Bool.false_and, Bool.false_eq_true, if_false] at h
  split at h
  · split at h
    · rcases List.mem_append.mp h with h | h
      · exact .inl (hup h)
      · exact .inr (.inr (List.mem_singleton.mp h))
    · exact .inl (hup h)
  split at h
  · split at h
    · rcases List.mem_append.mp h with h | h
      · exact .inl h
      · exact .inr (.inr (List.mem_singleton.mp h))
    · exact .inl h
  · rcases List.mem_append.mp h with h | h
    · exact .inl h
    · exact .inr (.inl (List.mem_singleton.mp h))

/-- The last segment leaves one behind, be it empty. -/
theorem addSegment_last_ne_nil (path : List (List Char)) (s : List Char) :
    addSegment false true path s ≠ [] := by
  simp only [addSegment, Bool.false_and, Bool.false_eq_true, if_false, if_true]
  split
  · exact List.concat_ne_nil _ _
  split
  · exact List.concat_ne_nil _ _
  · exact List.concat_ne_nil _ _

theorem addSegments_unbroken {raw : List (List Char)} (hraw : ∀ s ∈ raw, Unbroken s)
    {path : List (List Char)} (hpath : ∀ s ∈ path, Unbroken s) :
    ∀ s ∈ addSegments false path raw, Unbroken s := by
  have hadd : ∀ {isLast path s}, (∀ t ∈ path, Unbroken t) → Unbroken s →
      ∀ t ∈ addSegment false isLast path s, Unbroken t := by
    intro isLast path s hpath hs t ht
    rcases mem_of_mem_addSegment ht with ht | rfl | rfl
    · exact hpath t ht
    · exact hs
    · exact unbroken_nil
  induction raw generalizing path with
  | nil => exact hpath
  | cons s raw ih =>
    have hs := hraw s (List.mem_cons_self ..)
    have hrest : ∀ t ∈ raw, Unbroken t := fun t ht => hraw t (List.mem_cons_of_mem _ ht)
    cases raw with
    | nil => exact hadd hpath hs
    | cons t raw => exact ih hrest (hadd hpath hs)

theorem addSegments_ne_nil {raw : List (List Char)} (h : raw ≠ []) (path : List (List Char)) :
    addSegments false path raw ≠ [] := by
  induction raw generalizing path with
  | nil => exact absurd rfl h
  | cons s raw ih =>
    cases raw with
    | nil => exact addSegment_last_ne_nil path s
    | cons t raw => exact ih (List.cons_ne_nil _ _) _

/-! ## 3. What is read -/

/-- The two schemes of the web. -/
def IsWebScheme (scheme : List Char) : Prop := scheme = "http".toList ∨ scheme = "https".toList

instance (scheme : List Char) : Decidable (IsWebScheme scheme) := instDecidableOr

theorem IsWebScheme.special {scheme : List Char} (h : IsWebScheme scheme) :
    isSpecial scheme = true := by
  rcases h with rfl | rfl <;> decide

theorem IsWebScheme.notFile {scheme : List Char} (h : IsWebScheme scheme) :
    isFile scheme = false := by
  rcases h with rfl | rfl <;> decide

/-- **What the reader leaves of a URL of the web**: a host and a path of unbroken segments, one at
    least. -/
structure Web (u : Url) : Prop where
  scheme : IsWebScheme u.scheme
  authority : u.authority ≠ none
  path : u.path = .segments u.segments
  nonempty : u.segments ≠ []
  unbroken : ∀ s ∈ u.segments, Unbroken s

theorem readSegments_unbroken {scheme : List Char} (h : isFile scheme = false) (cs : List Char) :
    readSegments scheme cs ≠ [] ∧ ∀ s ∈ readSegments scheme cs, Unbroken s := by
  have hraw : ∀ s ∈ (splitSegments (isSpecial scheme) cs).map (percentEncode pathSet),
      Unbroken s := by
    intro s hs
    obtain ⟨r, hr, rfl⟩ := List.mem_map.mp hs
    refine unbroken_percentEncode ?_ (.inl fun hslash => ?_)
    · intro c hc
      have hsign : c = '?' ∨ c = '#' := by simpa [endsPath] using hc
      rcases hsign with rfl | rfl <;> decide
    · exact notMem_of_mem_splitOn hr hslash
  rw [readSegments, h]
  refine ⟨addSegments_ne_nil ?_ [], addSegments_unbroken hraw nofun⟩
  exact mt List.map_eq_nil_iff.mp (List.splitOn_ne_nil '/' _)

theorem web_of_readHierarchical {scheme cs : List Char} (hs : IsWebScheme scheme) {u : Url}
    (h : readHierarchical? scheme cs = some u) : Web u := by
  unfold readHierarchical? at h
  dsimp only at h
  generalize breakAt (endsAuthority (isSpecial scheme)) cs = parts at h
  obtain ⟨front, rest⟩ := parts
  obtain ⟨authority, -, h⟩ := Option.bind_eq_some_iff.mp h
  generalize breakAt endsPath rest = parts at h
  obtain ⟨path, tail⟩ := parts
  cases path with
  | nil =>
    simp only [hs.special, if_true] at h
    cases h
    refine ⟨hs, nofun, rfl, List.cons_ne_nil _ _, fun s hmem => ?_⟩
    rw [List.mem_singleton.mp hmem]
    exact unbroken_nil
  | cons c cs =>
    cases h
    obtain ⟨hne, hunbroken⟩ := readSegments_unbroken hs.notFile cs
    exact ⟨hs, nofun, rfl, hne, hunbroken⟩

theorem scheme_of_readFile {scheme cs : List Char} {u : Url} (h : readFile? scheme cs = some u) :
    u.scheme = scheme := by
  simp only [readFile?] at h
  split at h
  · split at h
    · cases h
      rfl
    · obtain ⟨⟨host, rest⟩, -, h⟩ := Option.bind_eq_some_iff.mp h
      cases h
      rfl
  · cases h
    rfl

theorem scheme_of_readHierarchical {scheme cs : List Char} {u : Url}
    (h : readHierarchical? scheme cs = some u) : u.scheme = scheme := by
  unfold readHierarchical? at h
  obtain ⟨authority, -, h⟩ := Option.bind_eq_some_iff.mp h
  cases h
  rfl

theorem scheme_of_readOther {scheme cs : List Char} {u : Url} (h : readOther? scheme cs = some u) :
    u.scheme = scheme := by
  unfold readOther? at h
  split at h
  · exact scheme_of_readHierarchical h
  · cases h
    rfl
  · cases h
    rfl

/-- **A URL of the web that was read** has a host and unbroken segments. -/
theorem web_of_read {text : String} {u : Url} (h : read? text = some u)
    (hs : IsWebScheme u.scheme) : Web u := by
  unfold read? ofChars? at h
  obtain ⟨rest, -, h⟩ := Option.bind_eq_some_iff.mp h
  obtain ⟨scheme, -, h⟩ := Option.bind_eq_some_iff.mp h
  split at h
  · rename_i hfile
    rw [scheme_of_readFile h] at hs
    rw [hs.notFile] at hfile
    cases hfile
  split at h
  · rw [scheme_of_readHierarchical h] at hs
    exact web_of_readHierarchical hs h
  · rename_i hspecial
    rw [scheme_of_readOther h] at hs
    exact absurd hs.special hspecial

/-! ## 4. What is sent -/

/-- **The text of a request tells its path**, up to the mark of the query. -/
theorem pathChars_of_requestText {u v : Url} (hu : Web u) (hv : Web v)
    (hscheme : u.scheme = v.scheme) (hauthority : u.authority = v.authority)
    {q q' : List Char} (hq : u.query = some q) (hq' : v.query = some q')
    (h : u.requestText = v.requestText) : u.path.toChars = v.path.toChars := by
  have hmark : ∀ {w : Url}, Web w → '?' ∉ w.path.toChars := by
    intro w hw hmem
    rw [hw.path] at hmem
    cases endsPath_of_mem_segmentChars hw.unbroken hmem
  have hfront : u.authorityChars = v.authorityChars := by
    obtain ⟨a, ha⟩ := Option.ne_none_iff_exists'.mp hu.authority
    have ha' : v.authority = some a := hauthority ▸ ha
    simp only [authorityChars, ha, ha']
  have hchars : u.charsToFragment = v.charsToFragment := String.ofList_inj.mp h
  simp only [charsToFragment, hscheme, hfront, hq, hq', markedChars, List.append_assoc,
    List.cons_append, List.append_cancel_left_eq, List.cons.injEq, true_and] at hchars
  have hcut := congrArg (Text.cutAt '?') hchars
  rw [Text.cutAt_append q (hmark hu), Text.cutAt_append q' (hmark hv)] at hcut
  exact congrArg Prod.fst hcut

end DaprHosting.Url
