import Mathlib.Data.List.Infix
import Permalink.Proofs.Text.Lenient
import Permalink.Url.Percent

set_option autoImplicit false

namespace Permalink.Url.Percent
open Text

/-- The escape at the front of a text: its byte, and the text after it. -/
def escape? : List Char → Option (UInt8 × List Char)
  | c :: a :: b :: rest =>
    if c = '%' then
      (hexValue? a).bind fun high => (hexValue? b).map fun low =>
        (UInt8.ofNat (16 * high + low), rest)
    else none
  | _ => none

theorem escape_eq_some {cs rest : List Char} {byte : UInt8} (h : escape? cs = some (byte, rest)) :
    ∃ a b high low, cs = '%' :: a :: b :: rest ∧ hexValue? a = some high ∧ hexValue? b = some low ∧
      byte = UInt8.ofNat (16 * high + low) := by
  match cs, h with
  | c :: a :: b :: tail, h =>
    simp only [escape?] at h
    split at h
    · rename_i hc
      obtain ⟨high, ha, h⟩ := Option.bind_eq_some_iff.mp h
      obtain ⟨low, hb, h⟩ := Option.map_eq_some_iff.mp h
      obtain ⟨rfl, rfl⟩ := Prod.mk.inj h
      exact ⟨a, b, high, low, by rw [hc], ha, hb, rfl⟩
    · cases h

theorem escape_of_hex {a b : Char} {high low : Nat} (ha : hexValue? a = some high)
    (hb : hexValue? b = some low) (rest : List Char) :
    escape? ('%' :: a :: b :: rest) = some (UInt8.ofNat (16 * high + low), rest) := by
  simp [escape?, ha, hb]

theorem escape_nil : escape? [] = none := rfl

theorem escape_cons_of_ne {c : Char} (h : c ≠ '%') (cs : List Char) : escape? (c :: cs) = none := by
  match cs with
  | [] | [_] => rfl
  | _ :: _ :: _ => simp [escape?, h]

theorem decode_of_escape {cs rest : List Char} {byte : UInt8}
    (h : escape? cs = some (byte, rest)) : decode cs = byte :: decode rest := by
  obtain ⟨a, b, high, low, rfl, ha, hb, rfl⟩ := escape_eq_some h
  simp [decode, ha, hb]

theorem decode_cons {c : Char} {cs : List Char} (h : escape? (c :: cs) = none) :
    decode (c :: cs) = String.utf8EncodeChar c ++ decode cs := by
  by_cases hc : c = '%'
  · subst hc
    match cs, h with
    | [], _ => rfl
    | [_], _ => simp [decode]
    | a :: b :: rest, h =>
      cases ha : hexValue? a with
      | none => simp only [decode, ha]; rfl
      | some high =>
        cases hb : hexValue? b with
        | none => simp only [decode, ha, hb]; rfl
        | some low => simp [escape?, ha, hb] at h
  · match cs with
    | [] | [_] => simp [decode]
    | _ :: _ :: _ => simp [decode, hc]

/-- A text is empty, begins with an escape, or begins with a character that begins none. -/
@[elab_as_elim]
theorem escape_induction {motive : List Char → Prop} (nil : motive [])
    (escape : ∀ cs byte rest, escape? cs = some (byte, rest) → motive rest → motive cs)
    (plain : ∀ c cs, escape? (c :: cs) = none → motive cs → motive (c :: cs))
    (cs : List Char) : motive cs := by
  cases h : escape? cs with
  | none =>
    cases cs with
    | nil => exact nil
    | cons c cs => exact plain c cs h (escape_induction nil escape plain cs)
  | some found =>
    obtain ⟨byte, rest⟩ := found
    obtain ⟨a, b, _, _, rfl, _⟩ := escape_eq_some h
    exact escape _ byte rest h (escape_induction nil escape plain rest)
termination_by cs.length

theorem hexValue_upperHexDigit_byte (b : UInt8) :
    hexValue? (upperHexDigit (b.toNat / 16)) = some (b.toNat / 16) ∧
      hexValue? (upperHexDigit (b.toNat % 16)) = some (b.toNat % 16) := by
  have hb := b.toNat_lt
  exact ⟨hexValue_upperHexDigit (by omega), hexValue_upperHexDigit (by omega)⟩

theorem escape_escape (b : UInt8) (rest : List Char) :
    escape? (escape b ++ rest) = some (b, rest) := by
  have hd := hexValue_upperHexDigit_byte b
  have hval : UInt8.ofNat (16 * (b.toNat / 16) + b.toNat % 16) = b := by
    rw [Nat.div_add_mod]
    exact UInt8.ofNat_toNat
  have h := escape_of_hex hd.1 hd.2 rest
  rw [hval] at h
  exact h

theorem encodeChar_kept {set : EncodeSet} {c : Char} (h : c.toNat < 128) (hs : set c = false) :
    encodeChar set c = [c] := by
  simp [encodeChar, h, hs]

theorem encodeChar_escaped {set : EncodeSet} {c : Char} (h : ¬ (c.toNat < 128 ∧ set c = false)) :
    encodeChar set c = (String.utf8EncodeChar c).flatMap escape := by
  unfold encodeChar
  rw [if_neg (by simpa using h)]

theorem encodeChar_ne_nil (set : EncodeSet) (c : Char) : encodeChar set c ≠ [] := by
  by_cases h : c.toNat < 128 ∧ set c = false
  · rw [encodeChar_kept h.1 h.2]
    simp
  · rw [encodeChar_escaped h]
    obtain ⟨b, bs, he, _⟩ := Utf8.utf8EncodeChar_head c
    simp [he, escape]

theorem encode_cons (set : EncodeSet) (c : Char) (cs : List Char) :
    encode set (c :: cs) = encodeChar set c ++ encode set cs := rfl

theorem encode_eq_nil_iff {set : EncodeSet} {cs : List Char} : encode set cs = [] ↔ cs = [] := by
  cases cs with
  | nil => simp [encode]
  | cons c cs => simp [encode_cons, encodeChar_ne_nil]

theorem mem_escape {b : UInt8} {d : Char} (h : d ∈ escape b) :
    d = '%' ∨ ∃ n < 16, d = upperHexDigit n := by
  have hb := b.toNat_lt
  simp only [escape, List.mem_cons, List.not_mem_nil, or_false] at h
  rcases h with rfl | rfl | rfl
  · exact .inl rfl
  · exact .inr ⟨b.toNat / 16, by omega, rfl⟩
  · exact .inr ⟨b.toNat % 16, by omega, rfl⟩

theorem mem_encodeChar {set : EncodeSet} {c d : Char} (h : d ∈ encodeChar set c) :
    (d = c ∧ c.toNat < 128 ∧ set c = false) ∨ d = '%' ∨ ∃ n < 16, d = upperHexDigit n := by
  by_cases hc : c.toNat < 128 ∧ set c = false
  · rw [encodeChar_kept hc.1 hc.2] at h
    exact Or.inl ⟨List.mem_singleton.mp h, hc⟩
  · rw [encodeChar_escaped hc] at h
    obtain ⟨b, _, hd⟩ := List.mem_flatMap.mp h
    exact Or.inr (mem_escape hd)

/-- An encode set that leaves alone what encoding writes is not seen in an encoded text. -/
theorem kept_of_mem_encode {set : EncodeSet} (hpercent : set '%' = false)
    (hdigit : ∀ n < 16, set (upperHexDigit n) = false) {cs : List Char} :
    ∀ c ∈ encode set cs, c.toNat < 128 ∧ set c = false := by
  have hascii : ∀ n < 16, (upperHexDigit n).toNat < 128 := by decide
  intro c hc
  obtain ⟨d, _, hc⟩ := List.mem_flatMap.mp hc
  rcases mem_encodeChar hc with ⟨rfl, hkept⟩ | rfl | ⟨n, hn, rfl⟩
  · exact hkept
  · exact ⟨by decide, hpercent⟩
  · exact ⟨hascii n hn, hdigit n hn⟩

theorem encode_eq_self {set : EncodeSet} {cs : List Char}
    (h : ∀ c ∈ cs, c.toNat < 128 ∧ set c = false) : encode set cs = cs := by
  induction cs with
  | nil => rfl
  | cons c cs ih =>
    have hc := h c (by simp)
    rw [encode_cons, encodeChar_kept hc.1 hc.2, ih fun d hd => h d (by simp [hd])]
    rfl

end Permalink.Url.Percent

namespace Permalink.Url.Form
open Text Percent

def unplus (c : Char) : Char := if c = '+' then ' ' else c

def bytes (cs : List Char) : List UInt8 := decode (cs.map unplus)

theorem decodeText_eq (cs : List Char) : decodeText cs = Utf8.decodeLenient (bytes cs) := rfl

theorem hexValue_unplus (c : Char) : hexValue? (unplus c) = hexValue? c := by
  unfold unplus
  split
  · rename_i h
    rw [h]
    decide
  · rfl

theorem unplus_eq_percent_iff (c : Char) : unplus c = '%' ↔ c = '%' := by
  unfold unplus
  split
  · rename_i h
    rw [h]
    decide
  · rfl

theorem utf8Size_unplus (c : Char) : (unplus c).utf8Size = c.utf8Size := by
  unfold unplus
  split
  · rename_i h
    rw [h]
    decide
  · rfl

theorem escape_map_unplus (cs : List Char) :
    escape? (cs.map unplus) = (escape? cs).map fun found => (found.1, found.2.map unplus) := by
  match cs with
  | [] | [_] | [_, _] => rfl
  | c :: a :: b :: rest =>
    simp only [List.map_cons, escape?, hexValue_unplus, unplus_eq_percent_iff]
    split
    · cases hexValue? a with
      | none => rfl
      | some high => cases hexValue? b <;> rfl
    · rfl

theorem bytes_of_escape {cs rest : List Char} {byte : UInt8} (h : escape? cs = some (byte, rest)) :
    bytes cs = byte :: bytes rest := by
  apply decode_of_escape
  rw [escape_map_unplus, h]
  rfl

theorem bytes_cons {c : Char} {cs : List Char} (h : escape? (c :: cs) = none) :
    bytes (c :: cs) = String.utf8EncodeChar (unplus c) ++ bytes cs := by
  apply decode_cons
  rw [← List.map_cons, escape_map_unplus, h]
  rfl

theorem decodeText_cons {c : Char} {cs : List Char} (h : escape? (c :: cs) = none) :
    decodeText (c :: cs) = unplus c :: decodeText cs := by
  rw [decodeText_eq, bytes_cons h, Utf8.decodeLenient_utf8EncodeChar]
  rfl

theorem size_escape {cs rest : List Char} {byte : UInt8} (h : escape? cs = some (byte, rest)) :
    3 + size rest ≤ size cs := by
  obtain ⟨a, b, _, _, rfl, _⟩ := escape_eq_some h
  have ha := a.utf8Size_pos
  have hb := b.utf8Size_pos
  have hc : ('%').utf8Size = 1 := by decide
  simp only [size_cons]
  omega

theorem size_resume_bytes (cs : List Char) {state : Option Utf8.Unfinished}
    (h : ∀ p ∈ state, p.Sound) :
    size (Utf8.resume state (bytes cs)) ≤ size cs + Utf8.credit state := by
  induction cs using escape_induction generalizing state with
  | nil =>
    cases state with
    | none => exact Nat.zero_le _
    | some p => exact (by decide : size ['\uFFFD'] ≤ 0 + 3)
  | escape cs byte rest he ih =>
    obtain ⟨out, next, hscan, hnext, hsize⟩ := Utf8.scan_byte h byte
    have hrest := ih hnext
    have hcs := size_escape he
    rw [bytes_of_escape he, Utf8.resume, hscan, List.map_append, size_append]
    rw [Utf8.resume] at hrest
    omega
  | plain c cs he ih =>
    obtain ⟨broken, hbroken, hout⟩ := Utf8.resume_utf8EncodeChar h (unplus c) (bytes cs)
    have hrest : size (Utf8.decodeLenient (bytes cs)) ≤ size cs := @ih none (by simp)
    rw [bytes_cons he, hout, size_append, size_cons, size_cons, hbroken, utf8Size_unplus]
    omega

theorem size_decodeText_le (cs : List Char) : size (decodeText cs) ≤ size cs :=
  @size_resume_bytes cs none (by simp)

def Unescaped (cs : List Char) : Prop := ∀ part, part <:+ cs → escape? part = none

instance (cs : List Char) : Decidable (Unescaped cs) :=
  decidable_of_iff (∀ part ∈ cs.tails, escape? part = none)
    (by simp only [List.mem_tails, Unescaped])

theorem unescaped_cons {c : Char} {cs : List Char} :
    Unescaped (c :: cs) ↔ escape? (c :: cs) = none ∧ Unescaped cs := by
  simp only [Unescaped, List.suffix_cons_iff]
  constructor
  · intro h
    exact ⟨h _ (Or.inl rfl), fun part hp => h part (Or.inr hp)⟩
  · rintro ⟨hc, h⟩ part (rfl | hp)
    · exact hc
    · exact h part hp

theorem unescaped_of_not_mem {cs : List Char} (h : '%' ∉ cs) : Unescaped cs := by
  induction cs with
  | nil =>
    intro part hp
    rw [List.suffix_nil.mp hp]
    exact escape_nil
  | cons c cs ih =>
    rw [List.mem_cons, not_or] at h
    exact unescaped_cons.mpr ⟨escape_cons_of_ne (Ne.symm h.1) cs, ih h.2⟩

theorem decodeText_eq_self_of {cs : List Char} (hplus : '+' ∉ cs) (h : Unescaped cs) :
    decodeText cs = cs := by
  induction cs with
  | nil => rfl
  | cons c cs ih =>
    rw [unescaped_cons] at h
    rw [List.mem_cons, not_or] at hplus
    rw [decodeText_cons h.1, ih hplus.2 h.2, unplus, if_neg (Ne.symm hplus.1)]

/-- An escape shortens a text, unless it is a byte beyond ASCII, which never becomes a `%` again. -/
theorem decodeText_ne_of_escape {cs rest : List Char} {byte : UInt8}
    (h : escape? cs = some (byte, rest)) : decodeText cs ≠ cs := by
  intro heq
  rw [decodeText_eq, bytes_of_escape h] at heq
  obtain ⟨a, b, _, _, rfl, _⟩ := escape_eq_some h
  by_cases hb : byte.toNat < 0x80
  · rw [Utf8.decodeLenient_ascii hb] at heq
    have htail : decodeText rest = a :: b :: rest := (List.cons.inj heq).2
    have hsize := size_decodeText_le rest
    have ha := a.utf8Size_pos
    rw [htail, size_cons, size_cons] at hsize
    omega
  · have hhead := Utf8.head_decodeLenient (by omega : 0x80 ≤ byte.toNat) (bytes rest)
    rw [heq] at hhead
    exact hhead rfl

theorem decodeText_eq_self_iff {cs : List Char} :
    decodeText cs = cs ↔ '+' ∉ cs ∧ Unescaped cs := by
  refine ⟨fun h => ?_, fun h => decodeText_eq_self_of h.1 h.2⟩
  induction cs with
  | nil => exact ⟨by simp, unescaped_of_not_mem (by simp)⟩
  | cons c cs ih =>
    cases he : escape? (c :: cs) with
    | some found =>
      obtain ⟨byte, rest⟩ := found
      exact absurd h (decodeText_ne_of_escape he)
    | none =>
      rw [decodeText_cons he] at h
      obtain ⟨hc, hcs⟩ := List.cons.inj h
      obtain ⟨hplus, hescape⟩ := ih hcs
      refine ⟨?_, unescaped_cons.mpr ⟨he, hescape⟩⟩
      rw [List.mem_cons, not_or]
      refine ⟨?_, hplus⟩
      rintro rfl
      exact absurd hc (by decide)

end Permalink.Url.Form
