import DaprHosting.Json.Printer
import DaprHosting.Json.Reader
import DaprHosting.Proofs.Lists
import DaprHosting.Proofs.Text.Decimal
import Mathlib.Data.List.TakeWhile

/-!
# The grammar of strings and numbers

What a string and a number are written as, said apart from the reader: a string piece by piece
between its quotes, a number as a whole part, a fraction and an exponent, each of digits. The reader
takes just these texts, and the printer writes such texts: a literal for each string, whatever
characters this has, and a numeral for each integer. A number ends where no digit, point or exponent
follows (`EndsNumber`), and in a document one of the other signs always does.
-/

namespace DaprHosting.Json

/-! ## 1. Strings -/

/-- **What a piece of a string is written as**: a sign behind a backslash, four hexadecimal digits
    behind `\u`, or the character itself. -/
inductive PieceText : List Char → Piece → Prop where
  | sign {e x : Char} (he : e ≠ 'u') (hx : escaped? e = some x) : PieceText ['\\', e] (.char x)
  | unit {a b c d : Char} {n : Nat} (hn : unit? a b c d = some n) :
      PieceText ['\\', 'u', a, b, c, d] (.unit n)
  | plain {c : Char} (hquote : c ≠ '"') (hslash : c ≠ '\\') (hc : ¬ c.toNat < 0x20) :
      PieceText [c] (.char c)

/-- What pieces are written as, one behind the other. -/
inductive PiecesText : List Char → List Piece → Prop where
  | nil : PiecesText [] []
  | cons {cs ds : List Char} {p : Piece} {ps : List Piece} (h : PieceText cs p)
      (hs : PiecesText ds ps) : PiecesText (cs ++ ds) (p :: ps)

/-- **What a string is written as between its quotes.** With half of a surrogate pair among the
    pieces it is no string. -/
def LiteralText (cs : List Char) (s : Option String) : Prop :=
  ∃ ps, PiecesText cs ps ∧ s = (joinPieces ps).map String.ofList

section Pieces

theorem pieces?_close (cs : List Char) : pieces? ('"' :: cs) = some ([], cs) := by
  rw [pieces?.eq_def]
  rfl

theorem pieces?_escaped {e x : Char} (he : e ≠ 'u') (hx : escaped? e = some x) (cs : List Char) :
    pieces? ('\\' :: e :: cs) = (pieces? cs).map fun p => (.char x :: p.1, p.2) := by
  rw [pieces?.eq_def]
  simp only [if_neg he, hx]
  cases pieces? cs <;> rfl

theorem pieces?_unit {a b c d : Char} {n : Nat} (hn : unit? a b c d = some n) (cs : List Char) :
    pieces? ('\\' :: 'u' :: a :: b :: c :: d :: cs) =
      (pieces? cs).map fun p => (.unit n :: p.1, p.2) := by
  rw [pieces?.eq_def]
  simp only [hn]
  cases pieces? cs <;> rfl

theorem pieces?_plain {c : Char} (hquote : c ≠ '"') (hslash : c ≠ '\\') (hc : ¬ c.toNat < 0x20)
    (cs : List Char) : pieces? (c :: cs) = (pieces? cs).map fun p => (.char c :: p.1, p.2) := by
  rw [pieces?.eq_def]
  simp only [if_neg hquote, if_neg hslash, if_neg hc]
  cases pieces? cs <;> rfl

end Pieces

/-- **A piece is read off**, whatever stands behind it. -/
theorem pieces?_append {cs : List Char} {p : Piece} (h : PieceText cs p) (rest : List Char) :
    pieces? (cs ++ rest) = (pieces? rest).map fun q => (p :: q.1, q.2) := by
  cases h with
  | sign he hx => exact pieces?_escaped he hx rest
  | unit hn => exact pieces?_unit hn rest
  | plain hquote hslash hc => exact pieces?_plain hquote hslash hc rest

theorem pieces?_of_piecesText {cs : List Char} {ps : List Piece} (h : PiecesText cs ps)
    (rest : List Char) : pieces? (cs ++ '"' :: rest) = some (ps, rest) := by
  induction h with
  | nil => exact pieces?_close rest
  | cons h _ ih =>
    rw [List.append_assoc, pieces?_append h, ih]
    rfl

/-- A piece in front of pieces that are followed by the closing quote. -/
theorem exists_piecesText_cons {text cs r : List Char} {p : Piece} {ps : List Piece}
    (hp : PieceText text p) (h : ∃ front, cs = front ++ '"' :: r ∧ PiecesText front ps) :
    ∃ front, text ++ cs = front ++ '"' :: r ∧ PiecesText front (p :: ps) := by
  obtain ⟨front, rfl, hfront⟩ := h
  exact ⟨text ++ front, (List.append_assoc ..).symm, .cons hp hfront⟩

/-- What was read are pieces, up to the closing quote. -/
theorem piecesText_of_pieces? {cs r : List Char} {ps : List Piece} (h : pieces? cs = some (ps, r)) :
    ∃ text, cs = text ++ '"' :: r ∧ PiecesText text ps := by
  fun_induction pieces? cs generalizing ps r with
  | case1 | case3 | case5 | case7 => cases h
  | case2 cs =>
    cases h
    exact ⟨[], rfl, .nil⟩
  | case4 a b c d cs _ ih =>
    simp only [Option.bind_eq_bind, Option.bind_eq_some_iff] at h
    obtain ⟨n, hn, ⟨qs, r'⟩, hqs, hpair⟩ := h
    cases hpair
    exact exists_piecesText_cons (.unit hn) (ih hqs)
  | case6 e cs he _ ih =>
    simp only [Option.bind_eq_bind, Option.bind_eq_some_iff] at h
    obtain ⟨x, hx, ⟨qs, r'⟩, hqs, hpair⟩ := h
    cases hpair
    exact exists_piecesText_cons (.sign he hx) (ih hqs)
  | case8 c cs hquote hslash hc ih =>
    simp only [Option.bind_eq_bind, Option.bind_eq_some_iff] at h
    obtain ⟨⟨qs, r'⟩, hqs, hpair⟩ := h
    cases hpair
    exact exists_piecesText_cons (.plain hquote hslash hc) (ih hqs)

/-- **The reader takes just the literals**, up to their closing quote. -/
theorem literal?_eq_some_iff {cs r : List Char} {s : Option String} :
    literal? cs = some (s, r) ↔ ∃ text, cs = text ++ '"' :: r ∧ LiteralText text s := by
  rw [literal?, Option.map_eq_some_iff]
  constructor
  · rintro ⟨⟨ps, r'⟩, hps, hpair⟩
    cases hpair
    obtain ⟨text, rfl, htext⟩ := piecesText_of_pieces? hps
    exact ⟨text, rfl, ps, htext, rfl⟩
  · rintro ⟨text, rfl, ps, htext, rfl⟩
    exact ⟨(ps, r), pieces?_of_piecesText htext r, rfl⟩

/-- What is read to its end is a literal. -/
theorem LiteralText.of_read {cs : List Char} {s : Option String}
    (h : literal? (cs ++ ['"']) = some (s, [])) : LiteralText cs s := by
  obtain ⟨text, happend, htext⟩ := literal?_eq_some_iff.mp h
  rwa [List.append_cancel_right happend]

/-- The piece stands for the character, whatever pieces follow. -/
def Denotes (p : Piece) (c : Char) : Prop :=
  ∀ ps, joinPieces (p :: ps) = (joinPieces ps).map (c :: ·)

/-- A unit below the pairs is a character. -/
theorem denotes_unit {c : Char} (h : c.toNat < 0x20) : Denotes (.unit c.toNat) c := by
  intro ps
  have hhigh : ¬ (0xD800 ≤ c.toNat ∧ c.toNat < 0xDC00) := by omega
  have hlow : ¬ (0xDC00 ≤ c.toNat ∧ c.toNat < 0xE000) := by omega
  rw [joinPieces.eq_def]
  simp only [if_neg hhigh, if_neg hlow, Char.ofNat_toNat]

/-- **A character is escaped as a piece** that stands for it. -/
theorem pieceText_escape (c : Char) : ∃ p, PieceText (escape c) p ∧ Denotes p c := by
  have hsign : ∀ e, e ≠ 'u' → escaped? e = some c →
      ∃ p, PieceText ['\\', e] p ∧ Denotes p c :=
    fun e he hx => ⟨.char c, .sign he hx, fun _ => rfl⟩
  unfold escape
  -- the seven characters that have a sign
  iterate 7
    split
    · rename_i h
      subst h
      exact hsign _ (by decide) rfl
  split
  · rename_i h
    have hdigits : ∀ n < 0x20,
        unit? '0' '0' (Nat.digitChar (n / 16)) (Nat.digitChar (n % 16)) = some n := by decide
    exact ⟨.unit c.toNat, .unit (hdigits c.toNat h), denotes_unit h⟩
  · exact ⟨.char c, .plain ‹_› ‹_› ‹_›, fun _ => rfl⟩

/-- **What is written for a string is a literal of it.** -/
theorem literalText_escape (s : String) : LiteralText (s.toList.flatMap escape) (some s) := by
  have hpieces : ∀ cs : List Char, ∃ ps, PiecesText (cs.flatMap escape) ps ∧
      joinPieces ps = some cs := by
    intro cs
    induction cs with
    | nil => exact ⟨[], .nil, rfl⟩
    | cons c cs ih =>
      obtain ⟨p, hp, hc⟩ := pieceText_escape c
      obtain ⟨ps, hps, hjoin⟩ := ih
      refine ⟨p :: ps, ?_, ?_⟩
      · rw [List.flatMap_cons]
        exact .cons hp hps
      · rw [hc, hjoin]
        rfl
  obtain ⟨ps, hps, hjoin⟩ := hpieces s.toList
  exact ⟨ps, hps, by rw [hjoin, Option.map_some, String.ofList_toList]⟩

/-! ## 2. Numbers -/

/-- Digits, one or more. -/
structure Digits (ds : List Char) : Prop where
  nonempty : ds ≠ []
  digits : ∀ d ∈ ds, d.isDigit = true

/-- **What a fraction is written as**: a point with digits behind it, or nothing. -/
inductive FractionText : List Char → List Char → Prop where
  | none : FractionText [] []
  | digits {ds : List Char} (h : Digits ds) : FractionText ('.' :: ds) ds

/-- The sign of an exponent. -/
inductive SignText : List Char → Bool → Prop where
  | none : SignText [] false
  | plus : SignText ['+'] false
  | minus : SignText ['-'] true

/-- **What an exponent is written as**: `e` or `E`, perhaps a sign, and digits; or nothing. -/
inductive ExponentText : List Char → Option (Bool × List Char) → Prop where
  | none : ExponentText [] none
  | digits {e : Char} {sign ds : List Char} {minus : Bool} (he : e = 'e' ∨ e = 'E')
      (hs : SignText sign minus) (h : Digits ds) :
      ExponentText (e :: (sign ++ ds)) (some (minus, ds))

/-- The sign of a number. -/
def minusText (negative : Bool) : List Char := if negative then ['-'] else []

/-- **What a number is written as.** The whole part has no zero in front of it. -/
inductive NumeralText : List Char → Numeral → Prop where
  | parts {t : Numeral} {fraction exponent : List Char} (whole : Digits t.whole)
      (unpadded : t.whole.head? = some '0' → t.whole = ['0'])
      (hfraction : FractionText fraction t.fraction)
      (hexponent : ExponentText exponent t.exponent) :
      NumeralText (minusText t.negative ++ t.whole ++ fraction ++ exponent) t

/-- **A number ends here**: what follows is no digit, no point and no exponent. -/
def EndsNumber (rest : List Char) : Prop :=
  ∀ c, rest.head? = some c → c.isDigit = false ∧ c ≠ '.' ∧ c ≠ 'e' ∧ c ≠ 'E'

theorem digits?_append {ds rest : List Char} (h : Digits ds)
    (hrest : ∀ c, rest.head? = some c → c.isDigit = false) :
    digits? (ds ++ rest) = some (ds, rest) := by
  obtain ⟨d, ds', rfl⟩ := List.exists_cons_of_ne_nil h.nonempty
  rw [digits?, takeWhile_append_of_head h.digits hrest, dropWhile_append_of_head h.digits hrest]

theorem digits_of_digits? {cs ds r : List Char} (h : digits? cs = some (ds, r)) :
    cs = ds ++ r ∧ Digits ds := by
  have hall : ∀ d ∈ cs.takeWhile Char.isDigit, d.isDigit = true :=
    fun d hd => List.mem_takeWhile_imp hd
  have hsplit := List.takeWhile_append_dropWhile (p := Char.isDigit) (l := cs)
  rw [digits?] at h
  generalize cs.takeWhile Char.isDigit = front at h hall hsplit
  cases front with
  | nil => cases h
  | cons d front =>
    cases h
    exact ⟨hsplit.symm, List.cons_ne_nil _ _, hall⟩

theorem fraction?_append {cs ds rest : List Char} (h : FractionText cs ds)
    (hrest : ∀ c, rest.head? = some c → c.isDigit = false ∧ c ≠ '.') :
    fraction? (cs ++ rest) = some (ds, rest) := by
  cases h with
  | none =>
    rw [List.nil_append, fraction?.eq_def]
    split
    · exact absurd rfl (hrest _ rfl).2
    · rfl
  | digits h => exact digits?_append h fun c hc => (hrest c hc).1

theorem fractionText_of_fraction? {cs ds r : List Char} (h : fraction? cs = some (ds, r)) :
    ∃ text, cs = text ++ r ∧ FractionText text ds := by
  rw [fraction?.eq_def] at h
  split at h
  · obtain ⟨rfl, hds⟩ := digits_of_digits? h
    exact ⟨'.' :: ds, rfl, .digits hds⟩
  · cases h
    exact ⟨[], rfl, .none⟩

/-- Digits start with no sign. -/
theorem Digits.head_ne {ds : List Char} (h : Digits ds) {c : Char} (hc : c.isDigit = false)
    (r rest : List Char) : ds ++ rest ≠ c :: r := by
  intro e
  obtain ⟨d, ds', rfl⟩ := List.exists_cons_of_ne_nil h.nonempty
  cases e
  rw [h.digits c (.head _)] at hc
  cases hc

theorem exponent?_append {cs rest : List Char} {e : Option (Bool × List Char)}
    (h : ExponentText cs e) (hend : EndsNumber rest) :
    exponent? (cs ++ rest) = some (e, rest) := by
  cases h with
  | none =>
    cases rest with
    | nil => rfl
    | cons c rest =>
      obtain ⟨-, -, hlower, hupper⟩ := hend c rfl
      rw [List.nil_append, exponent?.eq_def]
      simp only [if_neg (not_or.mpr ⟨hlower, hupper⟩)]
  | @digits e sign ds minus he hs h =>
    have hdigits := digits?_append h fun c hc => (hend c hc).1
    rw [List.cons_append, List.append_assoc, exponent?.eq_def]
    simp only [if_pos he]
    cases hs with
    | none =>
      rw [List.nil_append]
      split
      · rename_i r hr
        exact absurd hr (h.head_ne (by decide) r rest)
      · rename_i r hr
        exact absurd hr (h.head_ne (by decide) r rest)
      · rw [hdigits]
        rfl
    | plus | minus =>
      simp only [List.singleton_append, hdigits]
      rfl

theorem exponentText_of_exponent? {cs r : List Char} {e : Option (Bool × List Char)}
    (h : exponent? cs = some (e, r)) : ∃ text, cs = text ++ r ∧ ExponentText text e := by
  have hdigits : ∀ {c : Char} {sign cs : List Char} {minus : Bool}, c = 'e' ∨ c = 'E' →
      SignText sign minus →
      (digits? cs).map (fun p => (some (minus, p.1), p.2)) = some (e, r) →
      ∃ text, c :: (sign ++ cs) = text ++ r ∧ ExponentText text e := by
    intro c sign cs minus hc hsign hread
    rw [Option.map_eq_some_iff] at hread
    obtain ⟨⟨ds, r'⟩, hds, hpair⟩ := hread
    cases hpair
    obtain ⟨rfl, hdigits⟩ := digits_of_digits? hds
    exact ⟨c :: (sign ++ ds), by simp, .digits hc hsign hdigits⟩
  rw [exponent?.eq_def] at h
  split at h
  · cases h
    exact ⟨[], rfl, .none⟩
  · split at h
    · rename_i hc
      dsimp only at h
      split at h
      · exact hdigits hc .minus h
      · exact hdigits hc .plus h
      · exact hdigits hc .none h
    · cases h
      exact ⟨[], rfl, .none⟩

theorem whole?_append {ds rest : List Char} (h : Digits ds)
    (hunpadded : ds.head? = some '0' → ds = ['0'])
    (hrest : ∀ c, rest.head? = some c → c.isDigit = false) :
    whole? (ds ++ rest) = some (ds, rest) := by
  have hplain : ¬ (ds.head? = some '0' ∧ ds ≠ ['0']) :=
    fun hpadded => hpadded.2 (hunpadded hpadded.1)
  rw [whole?, digits?_append h hrest, Option.bind_eq_bind, Option.bind_some]
  exact if_neg hplain

theorem digits_of_whole? {cs ds r : List Char} (h : whole? cs = some (ds, r)) :
    cs = ds ++ r ∧ Digits ds ∧ (ds.head? = some '0' → ds = ['0']) := by
  rw [whole?, Option.bind_eq_bind, Option.bind_eq_some_iff] at h
  obtain ⟨⟨ds', r'⟩, hds, hread⟩ := h
  dsimp only at hread
  split at hread
  · cases hread
  · rename_i hplain
    cases hread
    obtain ⟨hcs, hdigits⟩ := digits_of_digits? hds
    exact ⟨hcs, hdigits, fun hzero => Classical.byContradiction fun hne => hplain ⟨hzero, hne⟩⟩

/-- Neither digit nor point follows the fraction. -/
theorem ExponentText.head_append {cs rest : List Char} {e : Option (Bool × List Char)}
    (h : ExponentText cs e) (hend : EndsNumber rest) {c : Char}
    (hc : (cs ++ rest).head? = some c) : c.isDigit = false ∧ c ≠ '.' := by
  cases h with
  | none => exact ⟨(hend c hc).1, (hend c hc).2.1⟩
  | digits he =>
    cases hc
    rcases he with rfl | rfl <;> decide

/-- No digit follows the whole part. -/
theorem FractionText.head_append {cs ds rest : List Char} (h : FractionText cs ds)
    (hrest : ∀ c, rest.head? = some c → c.isDigit = false ∧ c ≠ '.') {c : Char}
    (hc : (cs ++ rest).head? = some c) : c.isDigit = false := by
  cases h with
  | none => exact (hrest c hc).1
  | digits =>
    cases hc
    rfl

/-- The sign is read first, then the parts. -/
theorem numeral?_minusText (negative : Bool) {cs : List Char}
    (h : negative = false → ∀ r, cs ≠ '-' :: r) :
    numeral? (minusText negative ++ cs) =
      (whole? cs).bind fun w => (fraction? w.2).bind fun f => (exponent? f.2).bind fun e =>
        some (⟨negative, w.1, f.1, e.1⟩, e.2) := by
  cases negative with
  | true => rfl
  | false =>
    rw [minusText, if_neg Bool.false_ne_true, List.nil_append]
    cases cs with
    | nil => rfl
    | cons c r =>
      rw [numeral?.eq_def]
      split
      rename_i negative cs hmatch
      split at hmatch
      · rename_i e
        exact absurd e (h rfl _)
      · cases hmatch
        rfl

/-- **A number is read whole**, where it ends. -/
theorem numeral?_append {cs rest : List Char} {t : Numeral} (h : NumeralText cs t)
    (hend : EndsNumber rest) : numeral? (cs ++ rest) = some (t, rest) := by
  cases h with
  | @parts _ fraction exponent whole unpadded hfraction hexponent =>
    have hbehind : ∀ c, (exponent ++ rest).head? = some c → c.isDigit = false ∧ c ≠ '.' :=
      fun _ => hexponent.head_append hend
    rw [List.append_assoc, List.append_assoc, List.append_assoc,
      numeral?_minusText _ fun _ r => whole.head_ne (by decide) r _,
      whole?_append whole unpadded fun c => hfraction.head_append hbehind, Option.bind_some,
      fraction?_append hfraction hbehind, Option.bind_some, exponent?_append hexponent hend,
      Option.bind_some]

theorem numeralText_of_numeral? {cs r : List Char} {t : Numeral} (h : numeral? cs = some (t, r)) :
    ∃ text, cs = text ++ r ∧ NumeralText text t := by
  obtain ⟨negative, cs', rfl, hsign⟩ : ∃ negative cs', cs = minusText negative ++ cs' ∧
      (negative = false → ∀ r, cs' ≠ '-' :: r) := by
    by_cases hminus : ∃ r, cs = '-' :: r
    · obtain ⟨r, rfl⟩ := hminus
      exact ⟨true, r, rfl, nofun⟩
    · exact ⟨false, cs, rfl, fun _ r e => hminus ⟨r, e⟩⟩
  rw [numeral?_minusText _ hsign] at h
  simp only [Option.bind_eq_some_iff, Prod.exists] at h
  obtain ⟨whole, r₁, hwhole, fraction, r₂, hfraction, exponent, r₃, hexponent, hpair⟩ := h
  cases hpair
  obtain ⟨rfl, hdigits, hunpadded⟩ := digits_of_whole? hwhole
  obtain ⟨front, rfl, hfront⟩ := fractionText_of_fraction? hfraction
  obtain ⟨back, rfl, hback⟩ := exponentText_of_exponent? hexponent
  refine ⟨minusText negative ++ whole ++ front ++ back, by simp only [List.append_assoc], ?_⟩
  exact .parts (t := ⟨negative, whole, fraction, exponent⟩) hdigits hunpadded hfront hback

/-- A number starts with its sign or with a digit. -/
theorem NumeralText.head {cs : List Char} {t : Numeral} (h : NumeralText cs t) :
    ∃ c r, cs = c :: r ∧ (c = '-' ∨ c.isDigit = true) := by
  cases h with
  | parts whole =>
    obtain ⟨d, ds, hds⟩ := List.exists_cons_of_ne_nil whole.nonempty
    have hd : d.isDigit = true := whole.digits d (by rw [hds]; exact .head _)
    rw [hds, minusText]
    split
    · exact ⟨'-', _, rfl, .inl rfl⟩
    · exact ⟨d, _, rfl, .inr hd⟩

/-- The integers of 64 bits, with or without a sign. -/
def IsWord (n : Int) : Prop := -(Word.maxSigned64 + 1 : Nat) ≤ n ∧ n ≤ Word.max64

instance (n : Int) : Decidable (IsWord n) := inferInstanceAs (Decidable (_ ∧ _))

/-- Digits fill a number up to their value, as long as it fits. -/
theorem fill_eq (ds : List Char) {n : Nat} (hfit : Nat.ofDigitChars 10 ds n ≤ Word.max64) :
    fill n ds = (Nat.ofDigitChars 10 ds n, []) := by
  induction ds generalizing n with
  | nil => rfl
  | cons d ds ih =>
    rw [Nat.ofDigitChars_cons, Nat.mul_comm] at hfit ⊢
    have hnext : n * 10 + (d.toNat - '0'.toNat) ≤ Word.max64 :=
      Nat.le_trans (Text.le_ofDigitChars ds _) hfit
    rw [fill, if_pos hnext, ih hfit]

/-- The digits of a word fill it. -/
theorem fill_decimal {n : Nat} (h : n ≤ Word.max64) : fill 0 (Text.decimal n) = (n, []) := by
  have hvalue : Nat.ofDigitChars 10 (Text.decimal n) 0 = n :=
    Nat.ofDigitChars_toDigits (by decide) (by decide)
  rw [fill_eq _ (by rwa [hvalue]), hvalue]

/-- **What is written for an integer is a numeral of it.** -/
theorem numeralText_printNumber {n : Int} (h : IsWord n) :
    ∃ t, NumeralText (printNumber (.integer n)) t ∧ t.value? = some (.integer n) := by
  obtain ⟨hlow, hhigh⟩ := h
  have hmax : n.natAbs ≤ Word.max64 := by
    simp only [Word.maxSigned64, Word.max64] at hlow hhigh ⊢
    omega
  have hdigits : Digits (Text.decimal n.natAbs) :=
    ⟨Text.decimal_ne_nil _, fun d => Text.isDigit_of_mem_decimal⟩
  have htext : ∀ negative, NumeralText (minusText negative ++ Text.decimal n.natAbs)
      ⟨negative, Text.decimal n.natAbs, [], none⟩ := by
    intro negative
    have hparts := NumeralText.parts (t := ⟨negative, Text.decimal n.natAbs, [], none⟩) hdigits
      Text.decimal_of_head? .none .none
    rwa [List.append_nil, List.append_nil] at hparts
  by_cases hneg : n < 0
  · refine ⟨⟨true, Text.decimal n.natAbs, [], none⟩, ?_, ?_⟩
    · rw [printNumber, if_pos hneg]
      exact htext true
    · have hfits : ¬ (n.natAbs = 0 ∨ Word.maxSigned64 + 1 < n.natAbs) := by omega
      rw [Numeral.value?, fill_decimal hmax]
      simp only [List.isEmpty_nil, Option.isNone_none, Bool.and_self, if_true, if_neg hfits]
      rw [Int.ofNat_natAbs_of_nonpos (Int.le_of_lt hneg), Int.neg_neg]
  · refine ⟨⟨false, Text.decimal n.natAbs, [], none⟩, ?_, ?_⟩
    · rw [printNumber, if_neg hneg]
      exact htext false
    · rw [Numeral.value?, fill_decimal hmax]
      simp only [List.isEmpty_nil, Option.isNone_none, Bool.and_self, if_true, Bool.false_eq_true,
        if_false]
      rw [Int.natAbs_of_nonneg (Int.not_lt.mp hneg)]

end DaprHosting.Json
