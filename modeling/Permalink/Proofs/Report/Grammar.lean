import Permalink.Proofs.Text.Cut
import Permalink.Report

set_option autoImplicit false

/-!
The grammar is that of JSON without what is never written: numbers, blanks between the parts and
characters escaped as a pair of surrogates.
-/

namespace Permalink.Json
open Text

def shortEscapes : List (Char × Char) :=
  [('\x22', '\x22'), ('\\', '\\'), ('/', '/'), ('b', '\x08'), ('f', '\x0c'), ('n', '\n'),
    ('r', '\r'), ('t', '\t')]

inductive SpellsChar : Char → List Char → Prop where
  | plain {c : Char} : 0x20 ≤ c.toNat → c ≠ '\x22' → c ≠ '\\' → SpellsChar c [c]
  | short {c mark : Char} : (mark, c) ∈ shortEscapes → SpellsChar c ['\\', mark]
  | code {c : Char} {digits : List Char} : digits.length = 4 →
      number? 16 digits = some c.toNat → SpellsChar c ('\\' :: 'u' :: digits)

inductive SpellsText : List Char → List Char → Prop where
  | nil : SpellsText [] []
  | cons {c : Char} {cs value rest : List Char} : SpellsChar c cs → SpellsText value rest →
      SpellsText (c :: value) (cs ++ rest)

structure SpelledField where
  name : List Char
  nameText : List Char
  value : Json
  valueText : List Char

namespace SpelledField

def field (field : SpelledField) : List Char × Json := (field.name, field.value)

def text (field : SpelledField) : List Char :=
  '\x22' :: field.nameText ++ '\x22' :: ':' :: field.valueText

end SpelledField

inductive Spells : Json → List Char → Prop where
  | null : Spells null ['n', 'u', 'l', 'l']
  | true : Spells (bool .true) ['t', 'r', 'u', 'e']
  | false : Spells (bool .false) ['f', 'a', 'l', 's', 'e']
  | string {value cs : List Char} : SpellsText value cs →
      Spells (string value) ('\x22' :: cs ++ ['\x22'])
  | array {items : List (Json × List Char)} : (∀ item ∈ items, Spells item.1 item.2) →
      Spells (array (items.map (·.1))) ('[' :: [','].intercalate (items.map (·.2)) ++ [']'])
  | object {fields : List SpelledField} :
      (∀ field ∈ fields, SpellsText field.name field.nameText) →
      (∀ field ∈ fields, Spells field.value field.valueText) →
      Spells (object (fields.map (·.field)))
        ('\x7b' :: [','].intercalate (fields.map (·.text)) ++ ['\x7d'])

theorem hex_of_number {digits : List Char} {n start : Nat}
    (h : digits.foldlM (fun n c => (digit? 16 c).map (n * 16 + ·)) start = some n) :
    ∀ c ∈ digits, (hexValue? c).isSome := by
  induction digits generalizing start with
  | nil => simp
  | cons d digits ih =>
    rw [List.foldlM_cons] at h
    obtain ⟨next, hd, hrest⟩ := Option.bind_eq_some_iff.mp h
    obtain ⟨value, hvalue, _⟩ := Option.map_eq_some_iff.mp hd
    have hhex := (Option.filter_eq_some_iff.mp hvalue).1
    intro c hc
    rcases List.mem_cons.mp hc with rfl | hc
    · rw [hhex]
      rfl
    · exact ih hrest c hc

theorem le_toNat_of_hex {c : Char} (h : (hexValue? c).isSome) : 0x20 ≤ c.toNat := by
  have le {a b : Char} (hab : a ≤ b) : a.toNat ≤ b.toNat := hab
  unfold hexValue? at h
  split at h
  · rename_i hc
    exact Nat.le_trans (by decide) (le hc.1)
  split at h
  · rename_i hc
    exact Nat.le_trans (by decide) (le hc.1)
  split at h
  · rename_i hc
    exact Nat.le_trans (by decide) (le hc.1)
  · cases h

def IsPrintable (cs : List Char) : Prop := ∀ c ∈ cs, 0x20 ≤ c.toNat

instance : DecidablePred IsPrintable := fun cs =>
  List.decidableBAll (fun c : Char => 0x20 ≤ c.toNat) cs

theorem IsPrintable.append {cs ds : List Char} (hc : IsPrintable cs) (hd : IsPrintable ds) :
    IsPrintable (cs ++ ds) :=
  List.forall_mem_append.mpr ⟨hc, hd⟩

theorem IsPrintable.enclosed {left right : Char} {cs : List Char} (h : IsPrintable cs)
    (hleft : 0x20 ≤ left.toNat) (hright : 0x20 ≤ right.toNat) :
    IsPrintable (left :: cs ++ [right]) :=
  .append (List.forall_mem_cons.mpr ⟨hleft, h⟩) (List.forall_mem_singleton.mpr hright)

theorem IsPrintable.intercalate {pieces : List (List Char)}
    (h : ∀ piece ∈ pieces, IsPrintable piece) : IsPrintable ([','].intercalate pieces) := by
  intro c hc
  rcases mem_intercalate hc with rfl | ⟨piece, hpiece, hc⟩
  · decide
  · exact h piece hpiece c hc

theorem SpellsChar.isPrintable {c : Char} {cs : List Char} (h : SpellsChar c cs) :
    IsPrintable cs := by
  cases h with
  | plain hc _ _ => exact List.forall_mem_singleton.mpr hc
  | short hmem =>
    have hall : ∀ escape ∈ shortEscapes, 0x20 ≤ escape.1.toNat := by decide
    exact List.forall_mem_cons.mpr ⟨by decide, List.forall_mem_singleton.mpr (hall _ hmem)⟩
  | code _ hnumber =>
    refine List.forall_mem_cons.mpr ⟨by decide, List.forall_mem_cons.mpr ⟨by decide, ?_⟩⟩
    exact fun d hd => le_toNat_of_hex (hex_of_number hnumber d hd)

theorem SpellsText.isPrintable {value cs : List Char} (h : SpellsText value cs) :
    IsPrintable cs := by
  induction h with
  | nil => exact List.forall_mem_nil _
  | cons hchar _ ih => exact hchar.isPrintable.append ih

/-- A line break in a string can only stand there as an escape. -/
theorem Spells.isPrintable {value : Json} {cs : List Char} (h : Spells value cs) :
    IsPrintable cs := by
  induction h with
  | null | true | false => decide
  | string htext => exact htext.isPrintable.enclosed (by decide) (by decide)
  | array _ ih =>
    refine IsPrintable.enclosed (.intercalate ?_) (by decide) (by decide)
    exact List.forall_mem_map.mpr ih
  | object hname _ ih =>
    refine IsPrintable.enclosed (.intercalate ?_) (by decide) (by decide)
    refine List.forall_mem_map.mpr fun field hfield => ?_
    refine .append (List.forall_mem_cons.mpr ⟨by decide, (hname field hfield).isPrintable⟩) ?_
    refine List.forall_mem_cons.mpr ⟨by decide, ?_⟩
    exact List.forall_mem_cons.mpr ⟨by decide, ih field hfield⟩

theorem number_control {n : Nat} (h : n < 0x20) :
    number? 16 ['0', '0', lowerHexDigit (n / 16), lowerHexDigit (n % 16)] = some n := by
  have hall : ∀ m ∈ List.range 0x20,
      number? 16 ['0', '0', lowerHexDigit (m / 16), lowerHexDigit (m % 16)] = some m := by decide
  exact hall n (List.mem_range.mpr h)

theorem spellsChar_escape (c : Char) : SpellsChar c (escape c) := by
  unfold escape
  split_ifs with _ _ _ _ _ _ _ hcontrol
  iterate 7 · subst c; exact .short (by decide)
  · exact .code rfl (number_control hcontrol)
  · exact .plain (by omega) (by assumption) (by assumption)

theorem spellsText_escape (cs : List Char) : SpellsText cs (cs.flatMap escape) := by
  induction cs with
  | nil => exact .nil
  | cons c cs ih =>
    rw [List.flatMap_cons]
    exact .cons (spellsChar_escape c) ih

theorem itemsTail_eq (items : List Json) :
    itemsTail items = (items.map chars).flatMap (',' :: ·) ++ [']'] := by
  induction items with
  | nil => rfl
  | cons item items ih => simp [itemsTail, ih]

theorem chars_array (items : List Json) :
    chars (array items) = '[' :: [','].intercalate (items.map chars) ++ [']'] := by
  cases items with
  | nil => rfl
  | cons item items => simp [chars, itemsTail_eq, intercalate_cons_eq_flatMap]

def writtenField (field : List Char × Json) : SpelledField :=
  ⟨field.1, field.1.flatMap escape, field.2, field.2.chars⟩

theorem text_writtenField (field : List Char × Json) :
    (writtenField field).text = quote field.1 ++ ':' :: chars field.2 := by
  simp [writtenField, SpelledField.text, quote]

theorem fieldsTail_eq (fields : List (List Char × Json)) : fieldsTail fields =
    (fields.map fun field => (writtenField field).text).flatMap (',' :: ·) ++ ['\x7d'] := by
  induction fields with
  | nil => rfl
  | cons field fields ih => simp [fieldsTail, ih, text_writtenField]

theorem chars_object (fields : List (List Char × Json)) : chars (object fields) =
    '\x7b' :: [','].intercalate (fields.map fun field => (writtenField field).text) ++
      ['\x7d'] := by
  cases fields with
  | nil => rfl
  | cons field fields =>
    simp [chars, fieldsTail_eq, text_writtenField, intercalate_cons_eq_flatMap]

-- A value, its items and its fields are read off one another, as they are written.
mutual

theorem spells_chars : ∀ value : Json, Spells value value.chars
  | null => .null
  | bool true => .true
  | bool false => .false
  | string value => .string (spellsText_escape value)
  | array items => by
    have h : ∀ item ∈ items.map fun item => (item, item.chars), Spells item.1 item.2 := by
      simpa using spells_items items
    simpa [chars_array, Function.comp_def] using Spells.array h
  | object fields => by
    have hname : ∀ field ∈ fields.map writtenField, SpellsText field.name field.nameText := by
      simp only [List.forall_mem_map]
      exact fun field _ => spellsText_escape field.1
    have hvalue : ∀ field ∈ fields.map writtenField, Spells field.value field.valueText := by
      simp only [List.forall_mem_map]
      exact fun field hfield => spells_fields fields field.1 field.2 hfield
    simpa [chars_object, Function.comp_def, SpelledField.field, writtenField] using
      Spells.object hname hvalue

theorem spells_items : ∀ items : List Json, ∀ item ∈ items, Spells item item.chars
  | [], _, h => nomatch h
  | item :: items, other, h => by
    rcases List.mem_cons.mp h with he | h
    · exact he ▸ spells_chars item
    · exact spells_items items other h

theorem spells_fields : ∀ fields : List (List Char × Json), ∀ name value,
    (name, value) ∈ fields → Spells value value.chars
  | [], _, _, h => nomatch h
  | (name, value) :: fields, other, content, h => by
    rcases List.mem_cons.mp h with he | h
    · exact (Prod.mk.inj he).2 ▸ spells_chars value
    · exact spells_fields fields other content h

end

end Permalink.Json
