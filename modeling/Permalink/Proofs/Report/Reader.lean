import Permalink.Proofs.Report.Grammar

set_option autoImplicit false

namespace Permalink.Json
open Text

/-- The character of an escape by its number. Half of a pair of surrogates is none. -/
def codeChar? (digits : List Char) : Option Char :=
  (number? 16 digits).bind fun n => if n.isValidChar then some (Char.ofNat n) else none

def readText? : List Char → Option (List Char × List Char)
  | [] => none
  | '\x22' :: rest => some ([], rest)
  | '\\' :: 'u' :: a :: b :: d :: e :: rest =>
    (codeChar? [a, b, d, e]).bind fun c =>
      (readText? rest).map fun (value, rest) => (c :: value, rest)
  | '\\' :: mark :: rest =>
    (shortEscapes.lookup mark).bind fun c =>
      (readText? rest).map fun (value, rest) => (c :: value, rest)
  | c :: rest =>
    if c.toNat < 0x20 then none else (readText? rest).map fun (value, rest) => (c :: value, rest)

section Lists
variable {α : Type}

def readItems? (close : Char) (item? : List Char → Option (α × List Char)) :
    Nat → List Char → Option (List α × List Char)
  | 0, _ => none
  | fuel + 1, cs =>
    (item? cs).bind fun (item, rest) =>
      match rest with
      | [] => none
      | mark :: rest =>
        if mark = close then some ([item], rest)
        else if mark = ',' then
          (readItems? close item? fuel rest).map fun (items, rest) => (item :: items, rest)
        else none

def readList? (close : Char) (item? : List Char → Option (α × List Char)) (fuel : Nat)
    (cs : List Char) : Option (List α × List Char) :=
  if cs.head? = some close then some ([], cs.tail) else readItems? close item? fuel cs

end Lists

def readField? (value? : List Char → Option (Json × List Char)) :
    List Char → Option ((List Char × Json) × List Char)
  | '\x22' :: cs =>
    (readText? cs).bind fun (name, rest) =>
      match rest with
      | ':' :: rest => (value? rest).map fun (value, rest) => ((name, value), rest)
      | _ => none
  | _ => none

/-- The fuel bounds the depth of a value and the number of its items. -/
def readValue? : Nat → List Char → Option (Json × List Char)
  | 0, _ => none
  | fuel + 1, cs =>
    match cs with
    | 'n' :: 'u' :: 'l' :: 'l' :: rest => some (null, rest)
    | 't' :: 'r' :: 'u' :: 'e' :: rest => some (bool true, rest)
    | 'f' :: 'a' :: 'l' :: 's' :: 'e' :: rest => some (bool false, rest)
    | '\x22' :: rest => (readText? rest).map fun (value, rest) => (string value, rest)
    | '[' :: rest =>
      (readList? ']' (readValue? fuel) fuel rest).map fun (items, rest) => (array items, rest)
    | '\x7b' :: rest =>
      (readList? '\x7d' (readField? (readValue? fuel)) fuel rest).map fun (fields, rest) =>
        (object fields, rest)
    | _ => none

/-- The value of a text that holds nothing else. A text is longer than it is deep. -/
def ofChars? (cs : List Char) : Option Json :=
  (readValue? cs.length cs).bind fun (value, rest) => if rest.isEmpty then some value else none

theorem codeChar_of_number {c : Char} {digits : List Char}
    (h : number? 16 digits = some c.toNat) : codeChar? digits = some c := by
  have hvalid : c.toNat.isValidChar := c.valid
  rw [codeChar?, h, Option.bind_some, if_pos hvalid, Char.ofNat_toNat]

theorem SpellsChar.readText_append {c : Char} {cs : List Char} (h : SpellsChar c cs)
    (rest : List Char) : readText? (cs ++ rest) =
      (readText? rest).map fun (value, rest) => (c :: value, rest) := by
  cases h with
  | plain hc hquote hbackslash =>
    have hcontrol : ¬ c.toNat < 0x20 := by omega
    simp [readText?, hbackslash, hcontrol, -Nat.not_lt]
  | short hmem =>
    simp only [shortEscapes, List.mem_cons, List.not_mem_nil, or_false, Prod.mk.injEq] at hmem
    rcases hmem with ⟨rfl, rfl⟩ | ⟨rfl, rfl⟩ | ⟨rfl, rfl⟩ | ⟨rfl, rfl⟩ | ⟨rfl, rfl⟩ | ⟨rfl, rfl⟩ |
      ⟨rfl, rfl⟩ | ⟨rfl, rfl⟩ <;> rfl
  | @code digits hlength hnumber =>
    match digits, hlength with
    | [a, b, d, e], _ =>
      change (codeChar? [a, b, d, e]).bind _ = _
      rw [codeChar_of_number hnumber]
      rfl

theorem SpellsText.readText {value cs : List Char} (h : SpellsText value cs) (rest : List Char) :
    readText? (cs ++ '\x22' :: rest) = some (value, rest) := by
  induction h with
  | nil => rfl
  | cons hchar _ ih =>
    rw [List.append_assoc, hchar.readText_append, ih]
    rfl

theorem length_le_of_mem_pieces {pieces : List (List Char)} {piece : List Char}
    (h : piece ∈ pieces) : piece.length ≤ ([','].intercalate pieces).length := by
  cases pieces with
  | nil => cases h
  | cons first pieces =>
    rw [intercalate_cons_eq_flatMap, List.length_append]
    rcases List.mem_cons.mp h with rfl | h
    · exact Nat.le_add_right _ _
    · obtain ⟨front, back, rfl⟩ := List.append_of_mem h
      simp only [List.flatMap_append, List.flatMap_cons, List.length_append, List.length_cons]
      omega

theorem length_le_flatMap (pieces : List (List Char)) :
    pieces.length ≤ (pieces.flatMap (',' :: ·)).length := by
  induction pieces with
  | nil => exact Nat.le_refl _
  | cons piece pieces ih =>
    simp only [List.flatMap_cons, List.length_append, List.length_cons]
    omega

theorem length_pieces_le (pieces : List (List Char)) :
    pieces.length ≤ ([','].intercalate pieces).length + 1 := by
  cases pieces with
  | nil => exact Nat.zero_le _
  | cons piece pieces =>
    have hle := length_le_flatMap pieces
    rw [intercalate_cons_eq_flatMap, List.length_cons, List.length_append]
    omega

section Items
variable {α β : Type} {close : Char} {item? : List Char → Option (α × List Char)}
  {value : β → α} {text : β → List Char}

/-- Each item is read off its own text, whatever follows, so the items are read off theirs. -/
theorem readItems_intercalate (hclose : close ≠ ',') {items : List β} {fuel : Nat}
    (hread : ∀ item ∈ items, ∀ rest, item? (text item ++ rest) = some (value item, rest))
    (hne : items ≠ []) (hfuel : items.length ≤ fuel) (rest : List Char) :
    readItems? close item? fuel ([','].intercalate (items.map text) ++ close :: rest) =
      some (items.map value, rest) := by
  induction items generalizing fuel with
  | nil => exact absurd rfl hne
  | cons item items ih =>
    obtain ⟨fuel, rfl⟩ := Nat.exists_eq_succ_of_ne_zero (Nat.ne_zero_of_lt hfuel)
    have hitem := hread item List.mem_cons_self
    cases items with
    | nil => simp [readItems?, List.intercalate_singleton, hitem]
    | cons next items =>
      have htail := ih (fun other hother => hread other (List.mem_cons_of_mem item hother))
        (List.cons_ne_nil next items) (Nat.le_of_succ_le_succ hfuel)
      rw [List.map_cons] at htail
      rw [readItems?, List.map_cons, List.map_cons, List.intercalate_cons_cons, List.append_assoc,
        List.append_assoc, hitem]
      simp [Ne.symm hclose, htail]

theorem readList_intercalate (hclose : close ≠ ',') (hstart : ∀ rest, item? (close :: rest) = none)
    {items : List β} {fuel : Nat} (hfuel : ([','].intercalate (items.map text)).length < fuel)
    (hread : ∀ item ∈ items, (text item).length ≤ fuel → ∀ rest,
      item? (text item ++ rest) = some (value item, rest)) (rest : List Char) :
    readList? close item? fuel ([','].intercalate (items.map text) ++ close :: rest) =
      some (items.map value, rest) := by
  cases items with
  | nil => simp [readList?]
  | cons item items =>
    have hlength := length_pieces_le ((item :: items).map text)
    rw [List.length_map] at hlength
    have hall : ∀ other ∈ item :: items, ∀ rest,
        item? (text other ++ rest) = some (value other, rest) := fun other hother =>
      hread other hother
        (Nat.le_trans (length_le_of_mem_pieces (List.mem_map_of_mem hother)) (Nat.le_of_lt hfuel))
    rw [readList?, if_neg,
      readItems_intercalate hclose hall (List.cons_ne_nil item items) (by omega)]
    intro hhead
    -- The first item begins there, and nothing that begins with the closing mark is one.
    rw [List.map_cons, intercalate_cons_eq_flatMap, List.append_assoc] at hhead
    obtain ⟨cs, hcs⟩ := List.head?_eq_some_iff.mp hhead
    have hitem := hall item List.mem_cons_self
      ((items.map text).flatMap (',' :: ·) ++ close :: rest)
    rw [hcs, hstart] at hitem
    cases hitem

end Items

theorem SpelledField.readField {field : SpelledField}
    {value? : List Char → Option (Json × List Char)}
    (hname : SpellsText field.name field.nameText)
    (hvalue : ∀ rest, value? (field.valueText ++ rest) = some (field.value, rest))
    (rest : List Char) : readField? value? (field.text ++ rest) = some (field.field, rest) := by
  simp [SpelledField.text, readField?, hname.readText, hvalue, SpelledField.field]

theorem Spells.readValue {value : Json} {cs : List Char} (h : Spells value cs) {fuel : Nat}
    (hfuel : cs.length ≤ fuel) (rest : List Char) :
    readValue? fuel (cs ++ rest) = some (value, rest) := by
  -- Each case spends one step of the fuel; the rest of it is enough for the parts.
  induction h generalizing fuel rest with
  | null | true | false =>
    obtain ⟨fuel, rfl⟩ := Nat.exists_eq_succ_of_ne_zero (Nat.ne_zero_of_lt hfuel)
    rfl
  | string htext =>
    obtain ⟨fuel, rfl⟩ := Nat.exists_eq_succ_of_ne_zero (Nat.ne_zero_of_lt hfuel)
    simp [readValue?, htext.readText]
  | @array items _ ih =>
    obtain ⟨fuel, rfl⟩ := Nat.exists_eq_succ_of_ne_zero (Nat.ne_zero_of_lt hfuel)
    have hbound : ([','].intercalate (items.map (·.2))).length < fuel := by
      simp only [List.length_append, List.length_cons] at hfuel
      omega
    have hclose : ∀ rest, readValue? fuel (']' :: rest) = none := fun _ => by cases fuel <;> rfl
    have hlist := readList_intercalate (by decide) hclose hbound
      (fun item hitem hlength => ih item hitem hlength) rest
    simp [readValue?, hlist]
  | @object fields hname _ ih =>
    obtain ⟨fuel, rfl⟩ := Nat.exists_eq_succ_of_ne_zero (Nat.ne_zero_of_lt hfuel)
    have hbound : ([','].intercalate (fields.map (·.text))).length < fuel := by
      simp only [List.length_append, List.length_cons] at hfuel
      omega
    have hread : ∀ field ∈ fields, field.text.length ≤ fuel → ∀ rest,
        readField? (readValue? fuel) (field.text ++ rest) = some (field.field, rest) := by
      intro field hfield hlength
      refine field.readField (hname field hfield) (ih field hfield ?_)
      simp only [SpelledField.text, List.length_append, List.length_cons] at hlength
      omega
    have hclose : ∀ rest, readField? (readValue? fuel) ('\x7d' :: rest) = none := fun _ => rfl
    simp [readValue?, readList_intercalate (by decide) hclose hbound hread rest]

theorem Spells.ofChars {value : Json} {cs : List Char} (h : Spells value cs) :
    ofChars? cs = some value := by
  have hread := h.readValue (Nat.le_refl _) []
  rw [List.append_nil] at hread
  rw [ofChars?, hread]
  rfl

end Permalink.Json
