import DaprHosting.Proofs.Text.Trimmed
import DaprHosting.Proofs.Text.Utf8
import DaprHosting.Token

/-!
# Where a token comes from

What a text names is told by what trimming leaves of it (`read_eq_ok_iff`): a secret, or a file
behind `file:` or `file://`. A file that can be read as text and is not blank throughout holds its
trimmed text as the secret, whatever this is (`resolve_eq_ok_iff`). So a secret, by either way, is
never empty and never has a blank at its ends (`trimmed_of_resolve`).
-/

namespace DaprHosting.Token

open Text (Trimmed after? isBlank nonBlank? trim trimChars)

/-! ## 1. Sources -/

/-- **What a trimmed text names.** -/
inductive Source : String → Token → Prop where
  | literal {secret : String} (hne : secret ≠ "") (h : ¬ "file:".toList <+: secret.toList) :
      Source secret (.literal secret)
  | file {path : String} (hne : path ≠ "") (h : ¬ "//".toList <+: path.toList) :
      Source ("file:" ++ path) (.file path)
  | url {path : String} (hne : path ≠ "") : Source ("file://" ++ path) (.file path)

/-- A beginning is found just where there is one. -/
theorem after?_eq_some_iff {ps cs rest : List Char} :
    after? ps cs = some rest ↔ cs = ps ++ rest :=
  ⟨Text.eq_append_of_after?, fun h => h ▸ Text.after?_append ps rest⟩

theorem after?_eq_none_iff {ps cs : List Char} : after? ps cs = none ↔ ¬ ps <+: cs := by
  rw [Option.eq_none_iff_forall_ne_some]
  simp only [ne_eq, after?_eq_some_iff]
  exact ⟨fun h ⟨rest, hrest⟩ => h rest hrest.symm, fun h rest hrest => h ⟨rest, hrest.symm⟩⟩

theorem ofList_cons_ne_empty (c : Char) (cs : List Char) : String.ofList (c :: cs) ≠ "" := by
  refine mt String.toList_eq_nil_iff.mpr ?_
  rw [String.toList_ofList]
  exact List.cons_ne_nil c cs

section Reading

variable {text : String}

/-- Nothing is named by nothing. -/
theorem read_of_empty (h : trim text = "") :
    read text = .error (.invalidConfig "auth token is empty") := by
  have hchars : trimChars text.toList = [] := by
    rw [← Text.toList_trim, h]
    rfl
  rw [read, hchars]

/-- Without the prefix the text is the secret. -/
theorem read_of_literal (hne : trim text ≠ "") (h : ¬ "file:".toList <+: (trim text).toList) :
    read text = .ok (.literal (trim text)) := by
  obtain ⟨c, cs, hcs⟩ := List.exists_cons_of_ne_nil (mt String.toList_eq_nil_iff.mp hne)
  have hnone : after? ['f', 'i', 'l', 'e', ':'] (c :: cs) = none := by
    rw [← hcs]
    exact after?_eq_none_iff.mpr h
  have hsecret : trim text = String.ofList (c :: cs) := by rw [← hcs, String.ofList_toList]
  rw [Text.toList_trim] at hcs
  rw [hsecret, read, hcs]
  simp only [hnone]

/-- Behind the prefix stands a path, perhaps with two slashes in front. -/
theorem read_of_file {rest : List Char} (h : (trim text).toList = "file:".toList ++ rest) :
    read text = match (after? "//".toList rest).getD rest with
      | [] => .error (.invalidConfig "auth token file path is empty")
      | path => .ok (.file (String.ofList path)) := by
  rw [Text.toList_trim] at h
  rw [read, h]
  rfl

/-- What stands there is the path, if it is anything. -/
theorem read_of_path {rest : List Char} (h : (trim text).toList = "file:".toList ++ rest)
    {path : String} (hpath : (after? "//".toList rest).getD rest = path.toList) (hne : path ≠ "") :
    read text = .ok (.file path) := by
  obtain ⟨c, cs, hcs⟩ := List.exists_cons_of_ne_nil (mt String.toList_eq_nil_iff.mp hne)
  rw [read_of_file h, hpath, hcs]
  dsimp only
  rw [← hcs, String.ofList_toList]

/-- Whatever is read is named by the trimmed text. -/
theorem source_of_read {t : Token} (h : read text = .ok t) : Source (trim text) t := by
  by_cases hne : trim text = ""
  · rw [read_of_empty hne] at h
    cases h
  by_cases hfile : "file:".toList <+: (trim text).toList
  · obtain ⟨rest, hrest⟩ := hfile
    have htext : trim text = "file:" ++ String.ofList rest := by
      rw [← String.toList_inj, String.toList_append, String.toList_ofList (l := rest), hrest]
    rw [read_of_file hrest.symm] at h
    cases hslashes : after? "//".toList rest with
    | none =>
      rw [hslashes, Option.getD_none] at h
      cases rest with
      | nil => cases h
      | cons c rest =>
        cases h
        rw [htext]
        have hprefix := after?_eq_none_iff.mp hslashes
        refine .file (ofList_cons_ne_empty c rest) ?_
        rwa [String.toList_ofList (l := c :: rest)]
    | some path =>
      rw [hslashes, Option.getD_some] at h
      cases path with
      | nil => cases h
      | cons c path =>
        cases h
        have hurl : trim text = "file://" ++ String.ofList (c :: path) := by
          rw [htext, after?_eq_some_iff.mp hslashes, ← String.toList_inj]
          simp
        rw [hurl]
        exact .url (ofList_cons_ne_empty c path)
  · rw [read_of_literal hne hfile] at h
    cases h
    exact .literal hne hfile

/-- **A token is read just where the trimmed text names it.** -/
theorem read_eq_ok_iff {t : Token} : read text = .ok t ↔ Source (trim text) t := by
  refine ⟨source_of_read, fun h => ?_⟩
  generalize hs : trim text = s at h
  cases h with
  | literal hne hfile =>
    subst hs
    exact read_of_literal hne hfile
  | @file path hne hslashes =>
    have hlist : (trim text).toList = "file:".toList ++ path.toList := by
      rw [hs, String.toList_append]
    refine read_of_path hlist ?_ hne
    rw [after?_eq_none_iff.mpr hslashes, Option.getD_none]
  | @url path hne =>
    have hlist : (trim text).toList = "file:".toList ++ ("//".toList ++ path.toList) := by
      rw [hs, String.toList_append, ← List.append_assoc]
      rfl
    refine read_of_path hlist ?_ hne
    rw [Text.after?_append, Option.getD_some]

end Reading

/-- A beginning, and what stands behind it. -/
theorem exists_eq_append {front s : String} (h : front.toList <+: s.toList) :
    ∃ rest, s = front ++ rest := by
  obtain ⟨rest, hrest⟩ := h
  refine ⟨String.ofList rest, String.toList_inj.mp ?_⟩
  rw [String.toList_append, String.toList_ofList (l := rest), hrest]

/-- **Something is named** unless nothing is left of the text, or nothing behind the prefix. -/
theorem exists_source_iff {s : String} :
    (∃ t, Source s t) ↔ s ≠ "" ∧ s ≠ "file:" ∧ s ≠ "file://" := by
  constructor
  · rintro ⟨t, h⟩
    cases h with
    | literal hne hfile =>
      refine ⟨hne, ?_, ?_⟩
      · rintro rfl
        exact hfile (List.prefix_refl _)
      · rintro rfl
        exact hfile (by decide)
    | @file path hne hslashes =>
      refine ⟨?_, mt String.append_eq_left_iff.mp hne, ?_⟩
      · rw [Ne, String.append_eq_empty_iff, not_and]
        exact fun _ => hne
      · intro h
        have hpath : path = "//" := (String.append_right_inj "file:").mp h
        rw [hpath] at hslashes
        exact hslashes (List.prefix_refl _)
    | @url path hne =>
      refine ⟨?_, ?_, mt String.append_eq_left_iff.mp hne⟩
      · rw [Ne, String.append_eq_empty_iff, not_and]
        exact fun _ => hne
      · intro h
        have hchars := congrArg String.toList h
        rw [String.toList_append] at hchars
        cases hchars
  · rintro ⟨hne, hfile, hurl⟩
    by_cases hprefix : "file:".toList <+: s.toList
    · obtain ⟨path, rfl⟩ := exists_eq_append hprefix
      by_cases hslashes : "//".toList <+: path.toList
      · obtain ⟨path, rfl⟩ := exists_eq_append hslashes
        rw [← String.append_assoc] at hurl ⊢
        refine ⟨.file path, .url ?_⟩
        rintro rfl
        exact hurl rfl
      · refine ⟨.file path, .file ?_ hslashes⟩
        rintro rfl
        exact hfile rfl
    · exact ⟨.literal s, .literal hne hprefix⟩

/-- **How a text is read.** -/
structure ReadAsNamed (text : String) : Prop where
  /-- It is accepted unless trimming leaves nothing of it, or nothing behind the prefix. -/
  accepted : (∃ t, read text = .ok t) ↔
    trim text ≠ "" ∧ trim text ≠ "file:" ∧ trim text ≠ "file://"
  /-- Blanks around it mean nothing. -/
  around : ∀ front back : String, (∀ c ∈ front.toList, isBlank c = true) →
    (∀ c ∈ back.toList, isBlank c = true) → read (front ++ text ++ back) = read text
  /-- What it names is told by what trimming leaves. -/
  source : ∀ t, read text = .ok t ↔ Source (trim text) t
  /-- Where it is accepted, it names a file just when it starts with the prefix. -/
  file : ∀ t, read text = .ok t →
    ((∃ path, t = .file path) ↔ "file:".toList <+: (trim text).toList)
  /-- It is itself a path, with or without slashes behind the prefix, if it neither starts with
      two slashes nor ends with a blank. -/
  path : text ≠ "" → ¬ "//".toList <+: text.toList →
    (∀ c, text.toList.getLast? = some c → isBlank c = false) →
    read ("file:" ++ text) = .ok (.file text) ∧ read ("file://" ++ text) = .ok (.file text)

theorem read_congr {text text' : String} (h : trim text = trim text') : read text = read text' := by
  rw [read, read, ← Text.toList_trim, ← Text.toList_trim, h]

/-- A text with the prefix in front and no blank at its end is trimmed already. -/
theorem trim_prefixed (front : String) {c : Char} {cs : List Char} (hfront : front.toList = c :: cs)
    (hc : isBlank c = false) {path : String} (hne : path ≠ "")
    (hlast : ∀ c, path.toList.getLast? = some c → isBlank c = false) :
    trim (front ++ path) = front ++ path := by
  have hhead : ∀ d, (front ++ path).toList.head? = some d → isBlank d = false := by
    intro d hd
    rw [String.toList_append, hfront] at hd
    cases hd
    exact hc
  have hend : ∀ d, (front ++ path).toList.getLast? = some d → isBlank d = false := by
    intro d hd
    rw [String.toList_append,
      List.getLast?_append_of_ne_nil _ (mt String.toList_eq_nil_iff.mp hne)] at hd
    exact hlast d hd
  have hkeep : trimChars ([] ++ (front ++ path).toList ++ []) = (front ++ path).toList :=
    Text.trimChars_surrounded nofun nofun hhead hend
  rw [List.nil_append, List.append_nil] at hkeep
  rw [trim, hkeep, String.ofList_toList]

/-- **Every text is read as it is named.** -/
theorem readAsNamed (text : String) : ReadAsNamed text := by
  refine ⟨?accepted, ?around, fun t => read_eq_ok_iff, ?file, ?path⟩
  case accepted =>
    rw [← exists_source_iff]
    exact exists_congr fun t => read_eq_ok_iff
  case around =>
    intro front back hfront hback
    refine read_congr (String.toList_inj.mp ?_)
    rw [Text.toList_trim, Text.toList_trim, String.toList_append, String.toList_append]
    exact Text.trimChars_around hfront hback text.toList
  case file =>
    intro t h
    rw [read_eq_ok_iff] at h
    generalize trim text = s at h ⊢
    cases h with
    | literal hne hfile => exact iff_of_false nofun hfile
    | file hne hslashes =>
      rw [String.toList_append]
      exact iff_of_true ⟨_, rfl⟩ (List.prefix_append _ _)
    | url hne =>
      rw [String.toList_append]
      exact iff_of_true ⟨_, rfl⟩ ((by decide : "file:".toList <+: "file://".toList).trans
        (List.prefix_append _ _))
  case path =>
    intro hne hslashes hlast
    have hfile := trim_prefixed "file:" rfl (by decide) hne hlast
    have hurl := trim_prefixed "file://" rfl (by decide) hne hlast
    rw [read_eq_ok_iff, read_eq_ok_iff, hfile, hurl]
    exact ⟨.file hne hslashes, .url hne⟩

/-! ## 2. Secrets -/

/-- **What a source holds**: a secret itself, and a file its trimmed text. -/
inductive Holds (files : Files) : Token → String → Prop where
  | literal (secret : String) : Holds files (.literal secret) secret
  | file {path content : String} (h : files path = .ok content) (hne : trim content ≠ "") :
      Holds files (.file path) (trim content)

/-- **A source is resolved to what it holds.** -/
theorem resolve_eq_ok_iff {files : Files} {t : Token} {secret : String} :
    t.resolve files = .ok secret ↔ Holds files t secret := by
  constructor
  · intro h
    cases t with
    | literal secret' =>
      cases h
      exact .literal secret
    | file path =>
      rw [resolve] at h
      split at h
      · cases h
      · rename_i content hcontent
        rw [nonBlank?] at h
        split at h
        · rename_i secret' hsecret
          split at hsecret
          · cases hsecret
          · rename_i hne
            cases hsecret
            cases h
            exact .file hcontent hne
        · cases h
  · intro h
    cases h with
    | literal => rfl
    | @file path content h hne =>
      have hsecret : nonBlank? content = some (trim content) := if_neg hne
      rw [resolve, h]
      simp only [hsecret]

/-- Otherwise the configuration is refused. -/
theorem exists_cause_of_resolve_ne_ok {files : Files} {t : Token}
    (h : ∀ secret, t.resolve files ≠ .ok secret) :
    ∃ cause, t.resolve files = .error (.invalidConfig cause) := by
  cases t with
  | literal secret => exact absurd rfl (h secret)
  | file path =>
    have hresolve : ∀ r, r = resolve files (.file path) →
        (∀ secret, r ≠ .ok secret) → ∃ cause, r = .error (.invalidConfig cause) := by
      intro r hr
      rw [resolve] at hr
      split at hr
      · exact fun _ => ⟨_, hr⟩
      · split at hr
        · exact fun hnot => absurd hr (hnot _)
        · exact fun _ => ⟨_, hr⟩
    exact hresolve _ rfl h

/-- **A secret says something, with no blanks around it.** -/
theorem trimmed_of_resolve {files : Files} {text : String} {t : Token} {secret : String}
    (hread : read text = .ok t) (h : t.resolve files = .ok secret) : Trimmed secret := by
  have htrimmed : ∀ s, trim s ≠ "" → Trimmed (trim s) := fun s hne =>
    Text.trimmed_of_nonBlank? (s := s) (by rw [nonBlank?, if_neg hne])
  cases resolve_eq_ok_iff.mp h with
  | literal =>
    rw [read_eq_ok_iff] at hread
    generalize hs : trim text = s at hread
    cases hread with
    | literal hne =>
      rw [← hs] at hne ⊢
      exact htrimmed text hne
  | @file path content hcontent hne => exact htrimmed content hne

/-- The files of a disk of bytes, each with the text that its bytes are. -/
def onDisk (disk : String → Except FileError (List UInt8)) : Files :=
  fun path => (disk path).bind textOf

theorem onDisk_eq_ok_iff {disk : String → Except FileError (List UInt8)} {path content : String} :
    onDisk disk path = .ok content ↔ disk path = .ok (Text.utf8 content.toList) := by
  rw [onDisk]
  cases disk path with
  | error e => exact iff_of_false nofun nofun
  | ok bytes =>
    have htext : textOf bytes = .ok content ↔ bytes = Text.utf8 content.toList := by
      rw [← Text.ofUtf8?_eq_some_iff, textOf]
      cases Text.ofUtf8? bytes with
      | none => exact iff_of_false nofun nofun
      | some s => rw [Except.ok.injEq, Option.some.injEq]
    rw [Except.ok.injEq, ← htext]
    rfl

/-- **Tokens are read as they are named, and their secrets are usable.** Every text is read as it is
    named; a secret that a source of a text is resolved to, by either way, says something and has no
    blanks around it; a file on a disk is resolved just when its bytes are a text that is not blank
    throughout, and to this text when it is trimmed, whatever it looks like; and any other file is
    refused. -/
theorem sources_are_resolved :
    (∀ text, ReadAsNamed text) ∧
    (∀ (files : Files) (text : String) (t : Token) (secret : String), read text = .ok t →
      t.resolve files = .ok secret → Trimmed secret) ∧
    ∀ (disk : String → Except FileError (List UInt8)) (path : String),
      (∀ secret, resolve (onDisk disk) (.file path) = .ok secret ↔
        ∃ content : String, disk path = .ok (Text.utf8 content.toList) ∧ trim content ≠ "" ∧
          secret = trim content) ∧
      ((∀ secret, resolve (onDisk disk) (.file path) ≠ .ok secret) →
        ∃ cause, resolve (onDisk disk) (.file path) = .error (.invalidConfig cause)) := by
  refine ⟨readAsNamed, fun _ _ _ _ => trimmed_of_resolve, fun disk path =>
    ⟨fun secret => ?_, exists_cause_of_resolve_ne_ok⟩⟩
  rw [resolve_eq_ok_iff]
  constructor
  · intro h
    cases h with
    | @file _ content hcontent hne => exact ⟨content, onDisk_eq_ok_iff.mp hcontent, hne, rfl⟩
  · rintro ⟨content, hcontent, hne, rfl⟩
    exact .file (onDisk_eq_ok_iff.mpr hcontent) hne

/-- A file whose text looks like another source, named with blanks around. -/
theorem sources_are_resolved_nested_prefix :
    let disk : String → Except FileError (List UInt8) :=
      fun path => if path = "/run/arm" then .ok (Text.utf8 " file:other\n".toList)
        else .error .missing
    ∃ t, read " file:///run/arm " = .ok t ∧ t = .file "/run/arm" ∧
      t.resolve (onDisk disk) = .ok "file:other" ∧ Trimmed "file:other" := by
  intro disk
  obtain ⟨hread, htrimmed, hdisk⟩ := sources_are_resolved
  have hblank : ∀ c ∈ " ".toList, isBlank c = true := by
    intro c hc
    rw [List.mem_singleton.mp hc]
    rfl
  have hlast : "/run/arm".toList.getLast? = some 'm' := by decide +kernel
  have haround := (hread ("file://" ++ "/run/arm")).around " " " " hblank hblank
  have hpath := ((hread "/run/arm").path (by decide) (by decide +kernel) fun c hc => by
    rw [hlast] at hc
    cases hc
    rfl).2
  have happend : " " ++ ("file://" ++ "/run/arm") ++ " " = " file:///run/arm " := by
    decide +kernel
  have htext : read " file:///run/arm " = .ok (.file "/run/arm") := by
    rw [← happend, haround, hpath]
  have hresolve : resolve (onDisk disk) (.file "/run/arm") = .ok "file:other" :=
    ((hdisk disk "/run/arm").1 _).mpr
      ⟨" file:other\n", if_pos rfl, by decide +kernel, by decide +kernel⟩
  exact ⟨_, htext, rfl, hresolve, htrimmed _ _ _ _ htext hresolve⟩

end DaprHosting.Token
