import DaprHosting.Json.Fields
import DaprHosting.Proofs.Json.Grammar
import DaprHosting.Proofs.OrderedMap.Entries

/-!
# Documents are read as they were written

Both printers write texts of the document (`valueText_print`, `valueText_layOut`), as long as no
part of it is a double or denotes nothing. So such a document is read back from either text:
`read?_compact` and `read?_pretty`. Of this kind is every document that is ever put out, which is
made of strings and truth values.
-/

namespace DaprHosting.Json

/-! ## 1. Documents -/

/-- **A document of texts**: strings, truth values, `null` and what is built of them. -/
inductive Textual : Json → Prop where
  | null : Textual .null
  | bool (b : Bool) : Textual (.bool b)
  | string (s : String) : Textual (.string s)
  | array {js : List Json} (h : ∀ j ∈ js, Textual j) : Textual (.array js)
  | object {ms : List (String × Json)} (h : ∀ m ∈ ms, Textual m.2) : Textual (.object ms)

namespace Textual

theorem ofStrings (es : List (String × String)) : Textual (Json.ofStrings es) := by
  refine .object fun m hm => ?_
  obtain ⟨e, -, rfl⟩ := List.mem_map.mp hm
  exact .string e.2

theorem ofOption {α : Type} {write : α → Json} (h : ∀ a, Textual (write a)) (o : Option α) :
    Textual (Json.ofOption write o) := by
  cases o with
  | none => exact .null
  | some a => exact h a

theorem member? {α : Type} {name : String} {write : α → Json} (h : ∀ a, Textual (write a))
    {o : Option α} : ∀ m ∈ Json.member? name write o, Textual m.2 := by
  intro m hm
  cases o with
  | none => cases hm
  | some a =>
    rw [List.mem_singleton.mp hm]
    exact h a

end Textual

/-- **A document of texts and integers**: nothing in it is a double, and everything denotes
    something. -/
inductive Integral : Json → Prop where
  | null : Integral .null
  | bool (b : Bool) : Integral (.bool b)
  | integer {n : Int} (h : IsWord n) : Integral (.number (.integer n))
  | string (s : String) : Integral (.string s)
  | array {js : List Json} (h : ∀ j ∈ js, Integral j) : Integral (.array js)
  | object {ms : List (String × Json)} (h : ∀ m ∈ ms, Integral m.2) : Integral (.object ms)

theorem Textual.integral {j : Json} (h : Textual j) : Integral j := by
  induction h with
  | null => exact .null
  | bool b => exact .bool b
  | string s => exact .string s
  | array _ ih => exact .array ih
  | object _ ih => exact .object ih

/-! ## 2. Parts -/

section Parts

variable {cs ds ls ws ws' : List Char} {j : Json} {js : List Json}
  {entries : List (Option String × Json)}

theorem valueText_quote (s : String) : ValueText (quote s) (.string s) :=
  .string (literalText_escape s)

theorem valueText_printNumber {n : Int} (h : IsWord n) :
    ValueText (printNumber (.integer n)) (.number (.integer n)) := by
  obtain ⟨t, htext, hvalue⟩ := numeralText_printNumber h
  have hnumber := ValueText.number htext
  rwa [hvalue] at hnumber

theorem ElementsText.single (hw : Blank ws) (h : ValueText cs j) (hw' : Blank ws') :
    ElementsText (ws ++ cs ++ ws') [j] := by
  have hone := ElementsText.one (e := ⟨ws, cs, ws', j⟩) ⟨⟨hw, hw'⟩, h⟩
  rwa [Element.written, ← List.append_assoc] at hone

theorem ElementsText.prepend (hw : Blank ws) (h : ValueText cs j) (hs : ElementsText ds js) :
    ElementsText (ws ++ cs ++ ',' :: ds) (j :: js) := by
  have hcons := ElementsText.cons (e := ⟨ws, cs, [], j⟩) ⟨⟨hw, blank_nil⟩, h⟩ hs
  rwa [Element.written, List.append_nil] at hcons

/-- A member with the literal that is written for its name. -/
theorem spelled_quote (hl : Blank ls) (k : String) {e : Element} (he : e.Spelled) :
    ∃ m : Member, m.Spelled ∧ m.written = ls ++ quote k ++ ':' :: e.written ∧
      m.entry = (some k, e.value) := by
  refine ⟨⟨ls, k.toList.flatMap escape, [], e, some k⟩,
    ⟨⟨hl, literalText_escape k, blank_nil, he.framed⟩, he.text⟩, ?_, rfl⟩
  simp [Member.written, quote]

theorem MembersText.single (hl : Blank ls) (k : String) (hw : Blank ws) (h : ValueText cs j)
    (hw' : Blank ws') :
    MembersText (ls ++ quote k ++ ':' :: (ws ++ (cs ++ ws'))) [(some k, j)] := by
  obtain ⟨m, hm, hwritten, hentry⟩ := spelled_quote (e := ⟨ws, cs, ws', j⟩) hl k ⟨⟨hw, hw'⟩, h⟩
  have hone := MembersText.one hm
  rwa [hwritten, hentry] at hone

theorem MembersText.prepend (hl : Blank ls) (k : String) (hw : Blank ws) (h : ValueText cs j)
    (hs : MembersText ds entries) :
    MembersText (ls ++ quote k ++ ':' :: (ws ++ cs) ++ ',' :: ds) ((some k, j) :: entries) := by
  obtain ⟨m, hm, hwritten, hentry⟩ :=
    spelled_quote (e := ⟨ws, cs, [], j⟩) hl k ⟨⟨hw, blank_nil⟩, h⟩
  have hcons := MembersText.cons hm hs
  rwa [hwritten, hentry, Element.written, List.append_nil] at hcons

end Parts

/-- Elements that are each taken back are taken back together. -/
theorem mapM_map_eq_some {α β : Type} {f : α → β} {g : β → Option α} (h : ∀ a, g (f a) = some a)
    (as : List α) : (as.map f).mapM g = some as := by
  induction as with
  | nil => rfl
  | cons a as ih => simp [List.mapM_cons, h, ih]

theorem ofMembers_named (ms : List (String × Json)) :
    ofMembers (ms.map fun m => (some m.1, m.2)) = .object ms := by
  have h : (ms.map fun m => (some m.1, m.2)).mapM
      (fun m : Option String × Json => m.1.map (·, m.2)) = some ms :=
    mapM_map_eq_some (by exact fun _ => rfl) ms
  rw [ofMembers, h]

/-! ## 3. The two texts -/

theorem elementsText_print {js : List Json} (hne : js ≠ []) (h : ∀ j ∈ js, ValueText j.print j) :
    ElementsText (printElements js) js := by
  induction js with
  | nil => exact absurd rfl hne
  | cons j js ih =>
    have hj := h j (.head _)
    cases js with
    | nil => simpa [printElements] using ElementsText.single blank_nil hj blank_nil
    | cons j' js =>
      rw [printElements]
      · exact .prepend blank_nil hj (ih (List.cons_ne_nil _ _) fun i hi => h i (.tail _ hi))
      · exact List.cons_ne_nil _ _

theorem membersText_print {ms : List (String × Json)} (hne : ms ≠ [])
    (h : ∀ m ∈ ms, ValueText m.2.print m.2) :
    MembersText (printMembers ms) (ms.map fun m => (some m.1, m.2)) := by
  induction ms with
  | nil => exact absurd rfl hne
  | cons m ms ih =>
    obtain ⟨k, j⟩ := m
    have hj := h (k, j) (.head _)
    cases ms with
    | nil => simpa [printMembers] using MembersText.single blank_nil k blank_nil hj blank_nil
    | cons m' ms =>
      rw [printMembers]
      · exact .prepend blank_nil k blank_nil hj
          (ih (List.cons_ne_nil _ _) fun i hi => h i (.tail _ hi))
      · exact List.cons_ne_nil _ _

/-- **The compact text of a document is a text of it.** -/
theorem valueText_print {j : Json} (h : Integral j) : ValueText j.print j := by
  induction h with
  | null => exact .null
  | bool b => cases b <;> constructor
  | integer h =>
    rw [print]
    exact valueText_printNumber h
  | string s =>
    rw [print]
    exact valueText_quote s
  | @array js _ ih =>
    rw [print]
    cases js with
    | nil => exact .emptyArray blank_nil
    | cons j js => exact (elementsText_print (List.cons_ne_nil _ _) ih).valueText
  | @object ms _ ih =>
    rw [print, ← ofMembers_named]
    cases ms with
    | nil => exact .emptyObject blank_nil
    | cons m ms => exact (membersText_print (List.cons_ne_nil _ _) ih).valueText

theorem elementsText_layOut {js : List Json} (hne : js ≠ []) {depth : Nat} {ws : List Char}
    (h : ∀ j ∈ js, ValueText (j.layOut depth) j) (hw : Blank ws) :
    ElementsText (layOutElements depth js ++ ws) js := by
  induction js with
  | nil => exact absurd rfl hne
  | cons j js ih =>
    have hj := h j (.head _)
    cases js with
    | nil =>
      rw [layOutElements]
      exact .single (blank_newLine depth) hj hw
    | cons j' js =>
      rw [layOutElements, List.append_assoc]
      · exact .prepend (blank_newLine depth) hj
          (ih (List.cons_ne_nil _ _) fun i hi => h i (.tail _ hi))
      · exact List.cons_ne_nil _ _

theorem membersText_layOut {ms : List (String × Json)} (hne : ms ≠ []) {depth : Nat}
    {ws : List Char} (h : ∀ m ∈ ms, ValueText (m.2.layOut depth) m.2) (hw : Blank ws) :
    MembersText (layOutMembers depth ms ++ ws) (ms.map fun m => (some m.1, m.2)) := by
  have hgap : Blank [' '] := by decide
  induction ms with
  | nil => exact absurd rfl hne
  | cons m ms ih =>
    obtain ⟨k, j⟩ := m
    have hj := h (k, j) (.head _)
    cases ms with
    | nil =>
      have hsingle := MembersText.single (blank_newLine depth) k hgap hj hw
      rw [layOutMembers, List.append_assoc]
      exact hsingle
    | cons m' ms =>
      rw [layOutMembers, List.append_assoc]
      · exact .prepend (blank_newLine depth) k hgap hj
          (ih (List.cons_ne_nil _ _) fun i hi => h i (.tail _ hi))
      · exact List.cons_ne_nil _ _

/-- **So is the laid-out text**, at any depth. -/
theorem valueText_layOut {j : Json} (h : Integral j) (depth : Nat) :
    ValueText (j.layOut depth) j := by
  induction h generalizing depth with
  | null => exact .null
  | bool b => cases b <;> constructor
  | integer h =>
    rw [layOut]
    exact valueText_printNumber h
  | string s =>
    rw [layOut]
    exact valueText_quote s
  | @array js _ ih =>
    cases js with
    | nil => exact .emptyArray blank_nil
    | cons j js =>
      rw [layOut]
      exact (elementsText_layOut (List.cons_ne_nil _ _) (fun i hi => ih i hi _)
        (blank_newLine depth)).valueText
  | @object ms _ ih =>
    cases ms with
    | nil => exact .emptyObject blank_nil
    | cons m ms =>
      rw [layOut, ← ofMembers_named]
      exact (membersText_layOut (List.cons_ne_nil _ _) (fun i hi => ih i hi _)
        (blank_newLine depth)).valueText

/-- **What is written compactly is read again.** -/
theorem read?_compact {j : Json} (h : Integral j) : read? j.compact = some j := by
  have hread := read?_framed (valueText_print h) blank_nil blank_nil
  rwa [List.nil_append, List.append_nil] at hread

/-- **What is put out is read again**: laid out, with a line end behind it. -/
theorem read?_pretty {j : Json} (h : Integral j) : read? (j.pretty ++ "\n") = some j := by
  have hline : Blank "\n".toList := by decide
  have hread := read?_framed (valueText_layOut h 0) blank_nil hline
  rwa [List.nil_append, String.ofList_append, String.ofList_toList] at hread

/-- A map of strings is the same again in a document. -/
theorem stringMap?_ofStrings (m : OrderedMap String) :
    (ofStrings m.entries).stringMap? = some m := by
  have hentries : (m.entries.map fun e => (e.1, Json.string e.2)).mapM stringEntry? =
      some m.entries := mapM_map_eq_some (by exact fun _ => rfl) m.entries
  rw [ofStrings, stringMap?, hentries]
  exact congrArg some (OrderedMap.ext_entries (OrderedMap.entries_ofList m.nodup))

end DaprHosting.Json
