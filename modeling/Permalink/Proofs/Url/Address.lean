import Mathlib.Data.List.TakeWhile
import Permalink.Proofs.Text.Cut
import Permalink.Url.Host

set_option autoImplicit false

namespace Permalink.Url
open Text

namespace Ipv4

theorem isDigit_of_mem_decimal {n : Nat} {c : Char} (h : c ∈ decimal n) : c.isDigit = true :=
  Nat.isDigit_of_mem_toDigits (by decide) (by decide) h

theorem number_decimal {n : Nat} (h : n < 256) : number? (decimal n) = some n := by
  have all : ∀ m ∈ List.range 256, number? (decimal m) = some m := by decide +kernel
  exact all n (List.mem_range.mpr h)

theorem dot_not_mem_decimal (n : Nat) : '.' ∉ decimal n := by
  intro h
  have hdigit := isDigit_of_mem_decimal h
  cases hdigit

theorem decimal_ne_nil (n : Nat) : decimal n ≠ [] := Nat.toDigits_ne_nil

def bytes (address : Ipv4) : List Nat :=
  [address.a.toNat, address.b.toNat, address.c.toNat, address.d.toNat]

theorem text_eq (address : Ipv4) : address.text = ['.'].intercalate (address.bytes.map decimal) :=
  rfl

theorem parts_text (address : Ipv4) : parts address.text = address.bytes.map decimal := by
  have hsplit : address.text.splitOn '.' = address.bytes.map decimal := by
    rw [text_eq, List.splitOn_intercalate '.' _ (by simp [bytes])]
    intro part hpart
    obtain ⟨n, _, rfl⟩ := List.mem_map.mp hpart
    exact dot_not_mem_decimal n
  rw [parts]
  simp only [hsplit]
  rw [if_neg]
  simp [bytes, decimal_ne_nil]

theorem isNumeric_text (address : Ipv4) : isNumeric address.text = true := by
  have hdigits : (decimal address.d.toNat).all Char.isDigit = true :=
    List.all_eq_true.mpr fun c hc => isDigit_of_mem_decimal hc
  rw [isNumeric, parts_text]
  simp [bytes, decimal_ne_nil, hdigits]

theorem text_ne_nil (address : Ipv4) : address.text ≠ [] := by
  intro hnil
  have hnumeric := isNumeric_text address
  rw [hnil] at hnumeric
  exact absurd hnumeric (by decide)

theorem ofNumbers_bytes (address : Ipv4) : ofNumbers? address.bytes = some address := by
  obtain ⟨a, b, c, d⟩ := address
  have ha := a.toNat_lt
  have hb := b.toNat_lt
  have hc := c.toNat_lt
  have hd := d.toNat_lt
  have hnumber : ofNat (((a.toNat * 256 + b.toNat) * 256 + c.toNat) * 256 + d.toNat) =
      ⟨a, b, c, d⟩ := by
    simp only [ofNat, mk.injEq, ← UInt8.toNat_inj, UInt8.toNat_ofNat']
    omega
  simp [ofNumbers?, bytes, span, ha, hb, hc, hd, hnumber]

theorem ofText_text (address : Ipv4) : ofText? address.text = some address := by
  have hbytes : ∀ n ∈ address.bytes, n < 256 := by
    have ha := address.a.toNat_lt
    have hb := address.b.toNat_lt
    have hc := address.c.toNat_lt
    have hd := address.d.toNat_lt
    simp [bytes, ha, hb, hc, hd]
  rw [ofText?, parts_text, mapM_map_eq_some fun n hn => number_decimal (hbytes n hn)]
  exact ofNumbers_bytes address

theorem mem_text {address : Ipv4} {c : Char} (h : c ∈ address.text) :
    c = '.' ∨ c.isDigit = true := by
  rcases mem_intercalate h with hc | ⟨part, hpart, hc⟩
  · exact .inl hc
  · obtain ⟨n, _, rfl⟩ := List.mem_map.mp hpart
    exact .inr (isDigit_of_mem_decimal hc)

end Ipv4

namespace Ipv6

def hex (p : UInt16) : List Char := Nat.toDigits 16 p.toNat

theorem hexValue_of_mem_hex {p : UInt16} {c : Char} (h : c ∈ hex p) : (hexValue? c).isSome := by
  obtain ⟨d, hd, rfl⟩ := mem_toDigits (by decide) h
  rw [hexValue_digitChar hd]
  rfl

theorem not_mem_hex {p : UInt16} {c : Char} (h : hexValue? c = none) : c ∉ hex p := by
  intro hmem
  have hsome := hexValue_of_mem_hex hmem
  rw [h] at hsome
  cases hsome

theorem hex_ne_nil (p : UInt16) : hex p ≠ [] := Nat.toDigits_ne_nil

theorem piece_hex (p : UInt16) : piece? (hex p) = some p := by
  have hlength : (hex p).length ≤ 4 :=
    (Nat.length_toDigits_le_iff (by decide) (by decide)).mpr p.toNat_lt
  rw [piece?, if_neg (by simpa [hex_ne_nil] using hlength), hex,
    number_toDigits (by decide) (by decide)]
  exact congrArg some UInt16.ofNat_toNat

theorem joinPieces_eq (ps : List UInt16) : joinPieces ps = [':'].intercalate (ps.map hex) := rfl

theorem joinPieces_cons_cons (p q : UInt16) (ps : List UInt16) :
    joinPieces (p :: q :: ps) = hex p ++ ':' :: joinPieces (q :: ps) := by
  simp [joinPieces_eq]

theorem joinPieces_head (p : UInt16) (ps : List UInt16) :
    ∃ c rest, joinPieces (p :: ps) = c :: rest ∧ c ≠ ':' := by
  obtain ⟨c, rest, hc⟩ := List.exists_cons_of_ne_nil (hex_ne_nil p)
  have hcolon : c ≠ ':' := by
    rintro rfl
    have hcolon : ':' ∉ hex p := not_mem_hex (by decide)
    exact hcolon (by simp [hc])
  cases ps with
  | nil => exact ⟨c, rest, by simpa [joinPieces_eq] using hc, hcolon⟩
  | cons q ps => exact ⟨c, _, by rw [joinPieces_cons_cons, hc]; rfl, hcolon⟩

theorem splitOn_joinPieces {ps : List UInt16} (h : ps ≠ []) :
    (joinPieces ps).splitOn ':' = ps.map hex := by
  rw [joinPieces_eq, List.splitOn_intercalate ':' _ (by simpa using h)]
  intro part hpart
  obtain ⟨p, _, rfl⟩ := List.mem_map.mp hpart
  exact not_mem_hex (by decide)

theorem lastPieces_hex (embed : Bool) (p : UInt16) : lastPieces? embed (hex p) = some [p] := by
  have hdot : '.' ∉ hex p := not_mem_hex (by decide)
  rw [lastPieces?, if_neg (by simp [hdot]), piece_hex]
  rfl

theorem pieces_joinPieces (embed : Bool) (ps : List UInt16) :
    pieces? embed (joinPieces ps) = some ps := by
  cases ps with
  | nil => rfl
  | cons p ps =>
    obtain ⟨c, rest, hhead, _⟩ := joinPieces_head p ps
    obtain ⟨front, last, hconcat⟩ : ∃ front last, p :: ps = front ++ [last] :=
      ⟨_, _, (List.dropLast_append_getLast (List.cons_ne_nil p ps)).symm⟩
    rw [pieces?, if_neg (by simp [hhead])]
    simp only [splitOn_joinPieces (List.cons_ne_nil p ps)]
    simp only [hconcat, List.map_append, List.map_singleton, List.dropLast_concat,
      List.getLast?_concat, mapM_map_eq_some fun p _ => piece_hex p, Option.bind_some,
      Option.getD_some, lastPieces_hex, Option.map_some]

theorem cutDoubleColon_append {xs : List Char} (h : ':' ∉ xs) (ys : List Char) :
    cutDoubleColon? (xs ++ ys) = (cutDoubleColon? ys).map fun cut => (xs ++ cut.1, cut.2) := by
  induction xs with
  | nil => simp
  | cons c xs ih =>
    rw [List.mem_cons, not_or] at h
    rw [List.cons_append, cutDoubleColon?, ih h.2]
    · simp [Function.comp_def]
    · intro rest hrest
      exact absurd hrest.symm h.1

theorem cutDoubleColon_colon {c : Char} (h : c ≠ ':') (rest : List Char) :
    cutDoubleColon? (':' :: c :: rest) =
      (cutDoubleColon? (c :: rest)).map fun cut => (':' :: cut.1, cut.2) := by
  rw [cutDoubleColon?]
  intro more _ hmore
  exact h (List.cons.inj hmore).1

theorem cutDoubleColon_joinPieces (ps : List UInt16) (tail : List Char) :
    cutDoubleColon? (joinPieces ps ++ tail) =
      (cutDoubleColon? tail).map fun cut => (joinPieces ps ++ cut.1, cut.2) := by
  induction ps with
  | nil => simp [joinPieces_eq]
  | cons p ps ih =>
    have hp : ':' ∉ hex p := not_mem_hex (by decide)
    cases ps with
    | nil =>
      have hone : joinPieces [p] = hex p := by simp [joinPieces_eq]
      rw [hone]
      exact cutDoubleColon_append hp tail
    | cons q ps =>
      obtain ⟨c, rest, hc, hcolon⟩ := joinPieces_head q ps
      have hcut : cutDoubleColon? (':' :: (joinPieces (q :: ps) ++ tail)) =
          (cutDoubleColon? (joinPieces (q :: ps) ++ tail)).map fun cut => (':' :: cut.1, cut.2) := by
        rw [hc, List.cons_append]
        exact cutDoubleColon_colon hcolon _
      rw [joinPieces_cons_cons, List.append_assoc, List.cons_append, cutDoubleColon_append hp, hcut,
        ih]
      simp [Function.comp_def]

theorem zeroRun_le (pieces : List UInt16) : zeroRun pieces ≤ pieces.length :=
  (List.takeWhile_sublist _).length_le

theorem replicate_zeroRun_append (pieces : List UInt16) :
    List.replicate (zeroRun pieces) 0 ++ pieces.drop (zeroRun pieces) = pieces := by
  have hzeros : pieces.takeWhile (· == 0) = List.replicate (zeroRun pieces) 0 := by
    refine List.eq_replicate_iff.mpr ⟨rfl, fun p hp => ?_⟩
    simpa using List.mem_takeWhile_imp hp
  have hsplit := List.takeWhile_append_dropWhile (p := (· == (0 : UInt16))) (l := pieces)
  have hdrop : pieces.drop (zeroRun pieces) = pieces.dropWhile (· == 0) := by
    have hleft := @List.drop_left _ (pieces.takeWhile (· == 0)) (pieces.dropWhile (· == 0))
    rwa [hsplit] at hleft
  rw [hdrop, ← hzeros, hsplit]

theorem ofText_text (address : Ipv6) : ofText? address.text = some address := by
  obtain ⟨pieces, hlength⟩ := address
  simp only [text]
  -- That the run is the longest one does not matter, only that it holds nothing but zeros.
  generalize longestRun pieces = i
  have hrun := replicate_zeroRun_append (pieces.drop i)
  have hle := zeroRun_le (pieces.drop i)
  generalize zeroRun (pieces.drop i) = n at hrun hle ⊢
  rw [List.length_drop, hlength] at hle
  rw [List.drop_drop] at hrun
  split
  · have hcut : cutDoubleColon?
        (joinPieces (pieces.take i) ++ [':', ':'] ++ joinPieces (pieces.drop (i + n))) =
          some (joinPieces (pieces.take i), joinPieces (pieces.drop (i + n))) := by
      rw [List.append_assoc, cutDoubleColon_joinPieces]
      simp [cutDoubleColon?]
    have hfront : (pieces.take i).length = i := by
      rw [List.length_take]
      omega
    have hback : (pieces.drop (i + n)).length = 8 - (i + n) := by
      rw [List.length_drop, hlength]
    have hmissing : 8 - i - (8 - (i + n)) = n := by omega
    rw [ofText?, hcut]
    simp only [pieces_joinPieces, Option.bind_some, hfront, hback, hmissing, List.append_assoc, hrun,
      List.take_append_drop]
    rw [dif_pos (by omega)]
  · have hcut : cutDoubleColon? (joinPieces pieces) = none := by
      rw [← List.append_nil (joinPieces pieces), cutDoubleColon_joinPieces]
      rfl
    rw [ofText?, hcut]
    simp only [pieces_joinPieces, Option.bind_some]
    rw [dif_pos hlength]

theorem mem_joinPieces {ps : List UInt16} {c : Char} (h : c ∈ joinPieces ps) :
    c = ':' ∨ (hexValue? c).isSome := by
  rcases mem_intercalate h with hc | ⟨part, hpart, hc⟩
  · exact .inl hc
  · obtain ⟨p, _, rfl⟩ := List.mem_map.mp hpart
    exact .inr (hexValue_of_mem_hex hc)

theorem mem_text {address : Ipv6} {c : Char} (h : c ∈ address.text) :
    c = ':' ∨ (hexValue? c).isSome := by
  simp only [text] at h
  split at h
  · simp only [List.mem_append, List.mem_cons, List.not_mem_nil, or_false, or_self] at h
    rcases h with (h | h) | h
    · exact mem_joinPieces h
    · exact .inl h
    · exact mem_joinPieces h
  · exact mem_joinPieces h

end Ipv6
end Permalink.Url
