import Permalink.Proofs.Text.Strict
import Permalink.Proofs.Url.Query

set_option autoImplicit false

namespace Permalink.Url.Form
open Text Percent

def isPlain (c : Char) : Bool :=
  c.isAlphanum || c == '*' || c == '-' || c == '.' || c == '_'

def encodeByte (b : UInt8) : List Char :=
  if isPlain (Char.ofNat b.toNat) then [Char.ofNat b.toNat]
  else if b = 0x20 then ['+']
  else escape b

def encodeText (cs : List Char) : List Char := (Utf8.encode cs).flatMap encodeByte

example : encodeText "a é+%".toList = "a+%C3%A9%2B%25".toList := by decide +kernel

theorem toNat_lt_of_isPlain {c : Char} (h : isPlain c = true) : c.toNat < 128 := by
  simp only [isPlain, Bool.or_eq_true, beq_iff_eq] at h
  rcases h with (((h | rfl) | rfl) | rfl) | rfl
  · exact toNat_lt_of_isAlphanum h
  all_goals decide

theorem kept_of_isPlain {c : Char} (h : isPlain c = true) :
    specialQuerySet c = false ∧ c ≠ '&' ∧ c ≠ '%' ∧ c ≠ '+' :=
  forall_ascii (p := fun c => isPlain c = true →
    specialQuerySet c = false ∧ c ≠ '&' ∧ c ≠ '%' ∧ c ≠ '+') (by decide +kernel)
    (toNat_lt_of_isPlain h) h

theorem utf8EncodeChar_of_isPlain {b : UInt8} (h : isPlain (Char.ofNat b.toNat) = true) :
    String.utf8EncodeChar (Char.ofNat b.toNat) = [b] := by
  have hlt := toNat_lt_of_isPlain h
  have hb := b.toNat_lt
  rw [Utf8.toNat_char_ofNat (.inl (by omega))] at hlt
  exact Utf8.utf8EncodeChar_one hlt

theorem bytes_encodeByte (b : UInt8) (cs : List Char) :
    bytes (encodeByte b ++ cs) = b :: bytes cs := by
  unfold encodeByte
  split
  · rename_i hplain
    obtain ⟨-, -, hpercent, hplus⟩ := kept_of_isPlain hplain
    rw [List.singleton_append, bytes_cons (escape_cons_of_ne hpercent cs), unplus, if_neg hplus,
      utf8EncodeChar_of_isPlain hplain]
    rfl
  split
  · rename_i hspace
    rw [List.singleton_append, bytes_cons (escape_cons_of_ne (by decide) cs), hspace]
    rfl
  · exact bytes_of_escape (escape_escape b cs)

theorem bytes_encodeText (cs : List Char) : bytes (encodeText cs) = Utf8.encode cs := by
  unfold encodeText
  induction Utf8.encode cs with
  | nil => rfl
  | cons b bs ih => rw [List.flatMap_cons, bytes_encodeByte, ih]

theorem decodeText_encodeText (cs : List Char) : decodeText (encodeText cs) = cs := by
  rw [decodeText_eq, bytes_encodeText, Utf8.decodeLenient_encode]

theorem kept_of_mem_encodeText {cs : List Char} {c : Char} (h : c ∈ encodeText cs) :
    c.toNat < 128 ∧ specialQuerySet c = false ∧ c ≠ '&' := by
  obtain ⟨b, _, hc⟩ := List.mem_flatMap.mp h
  unfold encodeByte at hc
  split at hc
  · rename_i hplain
    obtain rfl := List.mem_singleton.mp hc
    obtain ⟨hset, hamp, -, -⟩ := kept_of_isPlain hplain
    exact ⟨toNat_lt_of_isPlain hplain, hset, hamp⟩
  split at hc
  · obtain rfl := List.mem_singleton.mp hc
    decide
  · have hdigit : ∀ n < 16, (upperHexDigit n).toNat < 128 ∧
        specialQuerySet (upperHexDigit n) = false ∧ upperHexDigit n ≠ '&' := by decide
    rcases mem_escape hc with rfl | ⟨n, hn, rfl⟩
    · decide
    · exact hdigit n hn

end Permalink.Url.Form
