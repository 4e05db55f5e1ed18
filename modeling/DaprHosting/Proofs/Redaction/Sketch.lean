import DaprHosting.Toml.Reader
import DaprHosting.Wording

/-!
# Texts that are no document

A text that is no TOML has no settings whose values could be left out. What can be left out is every
string that stands where a value is expected: `Toml.sketch` walks through the text, keeps its keys,
signs and comments, and leaves the quotes of such a string. From the first string that does not end
the text is kept as it is. What is told of a text that is no TOML is `Discreet` when it depends on
this sketch alone.
-/

namespace DaprHosting.Toml

/-! ## 1. Where a walk stands -/

/-- Where a walk through a text stands. -/
structure Spot where
  comment : Bool := false
  /-- A value is expected. -/
  awaits : Bool := false
  /-- The brackets that are open, the innermost first, and of each whether it is an array. -/
  arrays : List Bool := []

namespace Spot

/-- The spot behind a value. -/
def behindValue (spot : Spot) : Spot := { spot with awaits := false }

/-- The spot behind a character of no string. A value is expected behind `=`, and in an array behind
    its bracket and each comma; a bracket elsewhere is part of a header. -/
def behind (spot : Spot) (c : Char) : Spot :=
  if c = '\n' then
    { spot with comment := false, awaits := spot.awaits && !spot.arrays.isEmpty }
  else if spot.comment || isSpace c || c = '\r' then spot
  else if c = '#' then { spot with comment := true }
  else if c = '=' then { spot with awaits := true }
  else if c = ',' then { spot with awaits := spot.arrays.head? == some true }
  else if c = '[' && spot.awaits then { spot with arrays := true :: spot.arrays }
  else if c = '\x7b' && spot.awaits then
    { spot with awaits := false, arrays := false :: spot.arrays }
  else if c = ']' || c = '\x7d' then { spot with awaits := false, arrays := spot.arrays.tail }
  else { spot with awaits := false }

end Spot

/-! ## 2. The sketch -/

/-- A quote that opens a string. -/
def isQuote (c : Char) : Bool := c = '"' || c = '\''

/-- The sketch from a spot on, after so many characters that a string has taken already. -/
def sketchFrom (spot : Spot) : Nat → List Char → List Char
  | _, [] => []
  | taken + 1, _ :: cs => sketchFrom spot taken cs
  | 0, c :: cs =>
    if isQuote c && !spot.comment then
      match string? (c :: cs) with
      | none => c :: cs
      | some (_, rest) =>
        let taken := cs.length - rest.length
        (if spot.awaits then [c, c] else c :: cs.take taken) ++
          sketchFrom spot.behindValue taken cs
    else c :: sketchFrom (spot.behind c) 0 cs

/-- The text without the strings that stand for values. -/
def sketch (text : String) : String := String.ofList (sketchFrom {} 0 text.toList)

example : sketch "\"a\" = [\"b=c\", \"\"\"d\n\"\"\"] # \"e\"\n= 'f'" =
    "\"a\" = [\"\", \"\"] # \"e\"\n= ''" := by decide +kernel

theorem sketchFrom_taken (spot : Spot) (taken cs : List Char) :
    sketchFrom spot taken.length (taken ++ cs) = sketchFrom spot 0 cs := by
  induction taken with
  | nil => rfl
  | cons c taken ih => exact ih

/-- Before its first quote a text is its own sketch. -/
theorem sketchFrom_append (spot : Spot) {front : List Char} (h : ∀ c ∈ front, isQuote c = false)
    (cs : List Char) :
    sketchFrom spot 0 (front ++ cs) = front ++ sketchFrom (front.foldl Spot.behind spot) 0 cs := by
  induction front generalizing spot with
  | nil => rfl
  | cons c front ih =>
    obtain ⟨hc, hfront⟩ := List.forall_mem_cons.mp h
    rw [List.cons_append, sketchFrom, hc, Bool.false_and, if_neg Bool.false_ne_true, ih _ hfront]
    rfl

theorem isQuote_of_string? {c : Char} {cs : List Char} {r : List Char × List Char}
    (h : string? (c :: cs) = some r) : isQuote c = true := by
  cases hc : isQuote c with
  | true => rfl
  | false =>
    have hne : c ≠ '"' ∧ c ≠ '\'' := by simpa [isQuote] using hc
    simp [string?, Text.after?, shortString?, hne.1, hne.2, Ne.symm hne.1, Ne.symm hne.2] at h

/-- **A string that stands for a value is not in the sketch**: any two that begin with the same
    quote have the same, whatever follows them. -/
theorem sketchFrom_value {spot : Spot} (hspot : spot.comment = false ∧ spot.awaits = true)
    {c : Char} {body body' rest s s' : List Char}
    (h : string? (c :: (body ++ rest)) = some (s, rest))
    (h' : string? (c :: (body' ++ rest)) = some (s', rest)) :
    sketchFrom spot 0 (c :: (body ++ rest)) = sketchFrom spot 0 (c :: (body' ++ rest)) := by
  have hvalue : ∀ {body s : List Char}, string? (c :: (body ++ rest)) = some (s, rest) →
      sketchFrom spot 0 (c :: (body ++ rest)) = [c, c] ++ sketchFrom spot.behindValue 0 rest := by
    intro body s h
    have hlength : (body ++ rest).length - rest.length = body.length := by
      rw [List.length_append, Nat.add_sub_cancel]
    rw [sketchFrom, isQuote_of_string? h, hspot.1, h]
    simp only [Bool.not_false, Bool.and_self, if_true, hspot.2, hlength]
    rw [sketchFrom_taken]
  rw [hvalue h, hvalue h']

/-- So it is not in the sketch of a text in which no string stands before it. -/
theorem sketch_value {front : List Char} (hfront : ∀ c ∈ front, isQuote c = false)
    (hspot : (front.foldl Spot.behind {}).comment = false ∧
      (front.foldl Spot.behind {}).awaits = true)
    {c : Char} {body body' rest s s' : List Char}
    (h : string? (c :: (body ++ rest)) = some (s, rest))
    (h' : string? (c :: (body' ++ rest)) = some (s', rest)) :
    sketch (String.ofList (front ++ c :: (body ++ rest))) =
      sketch (String.ofList (front ++ c :: (body' ++ rest))) := by
  rw [sketch, sketch, String.toList_ofList, String.toList_ofList, sketchFrom_append _ hfront,
    sketchFrom_append _ hfront, sketchFrom_value hspot h h']

end DaprHosting.Toml

namespace DaprHosting

/-! ## 3. Words -/

/-- **Discreet words**: what is told of a text that is no TOML depends on its sketch alone. It says
    what was expected there, and nothing of what stands between quotes. -/
structure Wording.Discreet (w : Wording) : Prop where
  noToml : ∀ {text text' : String}, Toml.read? text = none → Toml.read? text' = none →
    Toml.sketch text = Toml.sketch text' → w.noToml text = w.noToml text'

theorem Wording.plain_discreet : Wording.plain.Discreet := ⟨fun _ _ _ => rfl⟩

end DaprHosting
