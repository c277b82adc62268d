import Permalink.Proofs.Text.Cut
import Permalink.Proofs.Url.Percent

set_option autoImplicit false

namespace Permalink.Url.Form
open Text Percent

/-- An encode set that leaves alone the characters to which a query gives a meaning. -/
structure Transparent (set : EncodeSet) : Prop where
  ampersand : set '&' = false
  equals : set '=' = false
  plus : set '+' = false
  percent : set '%' = false
  hex : ∀ c, (hexValue? c).isSome → set c = false

theorem toNat_lt_of_hex {c : Char} (h : (hexValue? c).isSome) : c.toNat < 128 := by
  unfold hexValue? at h
  have le {a b : Char} (hab : a ≤ b) : a.toNat ≤ b.toNat := hab
  split at h
  · rename_i hc
    exact lt_of_le_of_lt (le hc.2) (by decide)
  split at h
  · rename_i hc
    exact lt_of_le_of_lt (le hc.2) (by decide)
  split at h
  · rename_i hc
    exact lt_of_le_of_lt (le hc.2) (by decide)
  · cases h

theorem toNat_lt_of_isAlphanum {c : Char} (h : c.isAlphanum = true) : c.toNat < 128 := by
  delta Char.isAlphanum Char.isAlpha Char.isUpper Char.isLower Char.isDigit at h
  simp only [ge_iff_le, Bool.or_eq_true, Bool.and_eq_true, decide_eq_true_eq,
    UInt32.le_iff_toNat_le] at h
  change c.val.toNat < 128
  rcases h with (⟨_, h⟩ | ⟨_, h⟩) | ⟨_, h⟩
  all_goals exact h.trans_lt (by decide)

theorem forall_ascii {p : Char → Prop} (h : ∀ n ∈ List.range 128, p (Char.ofNat n)) {c : Char}
    (hc : c.toNat < 128) : p c := by
  have hp := h c.toNat (List.mem_range.mpr hc)
  rwa [Char.ofNat_toNat] at hp

theorem transparent_querySet : Transparent querySet := by
  refine ⟨by decide, by decide, by decide, by decide, fun c hc => ?_⟩
  exact forall_ascii (p := fun c => (hexValue? c).isSome → querySet c = false)
    (by decide +kernel) (toNat_lt_of_hex hc) hc

theorem transparent_specialQuerySet : Transparent specialQuerySet := by
  refine ⟨by decide, by decide, by decide, by decide, fun c hc => ?_⟩
  exact forall_ascii (p := fun c => (hexValue? c).isSome → specialQuerySet c = false)
    (by decide +kernel) (toNat_lt_of_hex hc) hc

variable {set : EncodeSet}

theorem Transparent.encodeChar_hex (hs : Transparent set) {c : Char} (h : (hexValue? c).isSome) :
    encodeChar set c = [c] :=
  encodeChar_kept (toNat_lt_of_hex h) (hs.hex c h)

/-- Encoding puts no hexadecimal digit at the front of a text. -/
theorem cons_of_encode_hex {cs rest : List Char} {a : Char} (h : encode set cs = a :: rest)
    (ha : (hexValue? a).isSome) : ∃ tail, cs = a :: tail ∧ rest = encode set tail := by
  cases cs with
  | nil => cases h
  | cons c tail =>
    rw [encode_cons] at h
    by_cases hc : c.toNat < 128 ∧ set c = false
    · rw [encodeChar_kept hc.1 hc.2] at h
      obtain ⟨rfl, rfl⟩ := List.cons.inj h
      exact ⟨tail, rfl, rfl⟩
    · obtain ⟨b, bs, he, _⟩ := Utf8.utf8EncodeChar_head c
      rw [encodeChar_escaped hc, he] at h
      have hpercent : '%' = a := (List.cons.inj h).1
      rw [← hpercent] at ha
      exact absurd ha (by decide)

theorem Transparent.escape_encode (hs : Transparent set) {cs rest : List Char} {byte : UInt8}
    (h : escape? cs = some (byte, rest)) :
    escape? (encode set cs) = some (byte, encode set rest) := by
  obtain ⟨a, b, high, low, rfl, ha, hb, rfl⟩ := escape_eq_some h
  rw [encode_cons, encode_cons, encode_cons, encodeChar_kept (by decide) hs.percent,
    hs.encodeChar_hex (by rw [ha]; rfl), hs.encodeChar_hex (by rw [hb]; rfl)]
  exact escape_of_hex ha hb _

theorem escape_cons_encode {c : Char} {cs : List Char} (h : escape? (c :: cs) = none) :
    escape? (c :: encode set cs) = none := by
  cases he : escape? (c :: encode set cs) with
  | none => rfl
  | some found =>
    obtain ⟨byte, rest⟩ := found
    obtain ⟨a, b, high, low, heq, ha, hb, rfl⟩ := escape_eq_some he
    obtain ⟨hc, htail⟩ := List.cons.inj heq
    obtain ⟨cs', hcs, hrest⟩ := cons_of_encode_hex htail (by rw [ha]; rfl)
    obtain ⟨cs'', hcs', _⟩ := cons_of_encode_hex hrest.symm (by rw [hb]; rfl)
    rw [hc, hcs, hcs', escape_of_hex ha hb] at h
    cases h

theorem bytes_escapes (bs : List UInt8) (cs : List Char) :
    bytes (bs.flatMap escape ++ cs) = bs ++ bytes cs := by
  induction bs with
  | nil => rfl
  | cons b bs ih =>
    rw [List.flatMap_cons, List.append_assoc, bytes_of_escape (escape_escape b _), ih]
    rfl

theorem Transparent.bytes_encode (hs : Transparent set) (cs : List Char) :
    bytes (encode set cs) = bytes cs := by
  induction cs using escape_induction with
  | nil => rfl
  | escape cs byte rest he ih =>
    rw [bytes_of_escape he, bytes_of_escape (hs.escape_encode he), ih]
  | plain c cs he ih =>
    rw [bytes_cons he, encode_cons]
    by_cases hc : c.toNat < 128 ∧ set c = false
    · rw [encodeChar_kept hc.1 hc.2, List.singleton_append, bytes_cons (escape_cons_encode he), ih]
    · have hplus : c ≠ '+' := by
        rintro rfl
        exact hc ⟨by decide, hs.plus⟩
      rw [encodeChar_escaped hc, bytes_escapes, ih, unplus, if_neg hplus]

theorem Transparent.decodeText_encode (hs : Transparent set) (cs : List Char) :
    decodeText (encode set cs) = decodeText cs := by
  rw [decodeText_eq, hs.bytes_encode, ← decodeText_eq]

/-- An ASCII character that encoding neither changes nor writes. -/
structure IsMark (set : EncodeSet) (mark : Char) : Prop where
  ascii : mark.toNat < 128
  kept : set mark = false
  percent : mark ≠ '%'
  hex : hexValue? mark = none

theorem Transparent.isMark_ampersand (hs : Transparent set) : IsMark set '&' :=
  ⟨by decide, hs.ampersand, by decide, by decide⟩

theorem Transparent.isMark_equals (hs : Transparent set) : IsMark set '=' :=
  ⟨by decide, hs.equals, by decide, by decide⟩

variable {mark : Char}

theorem IsMark.encodeChar (hm : IsMark set mark) : encodeChar set mark = [mark] :=
  encodeChar_kept hm.ascii hm.kept

theorem IsMark.not_mem_encodeChar (hm : IsMark set mark) {c : Char} (h : c ≠ mark) :
    mark ∉ Percent.encodeChar set c := by
  intro hmem
  rcases mem_encodeChar hmem with ⟨rfl, _⟩ | hp | ⟨n, hn, rfl⟩
  · exact h rfl
  · exact hm.percent hp
  · have hx := hm.hex
    rw [hexValue_upperHexDigit hn] at hx
    cases hx

theorem IsMark.splitOn_encode (hm : IsMark set mark) (cs : List Char) :
    (encode set cs).splitOn mark = (cs.splitOn mark).map (encode set) := by
  induction cs with
  | nil => simp [encode]
  | cons c cs ih =>
    rw [encode_cons, List.splitOn_cons_eq_if_modifyHead]
    by_cases hc : c = mark
    · subst hc
      rw [hm.encodeChar, List.singleton_append, List.splitOn_cons_eq_if_modifyHead, ih]
      simp [encode]
    · rw [splitOn_append_of_not_mem (hm.not_mem_encodeChar hc), ih]
      cases cs.splitOn mark <;> simp [hc, encode_cons]

theorem IsMark.before_encode (hm : IsMark set mark) (cs : List Char) :
    before mark (encode set cs) = encode set (before mark cs) := by
  induction cs with
  | nil => rfl
  | cons c cs ih =>
    rw [encode_cons]
    by_cases hc : c = mark
    · subst hc
      simp [hm.encodeChar, before, encode]
    · rw [before_append_of_not_mem (hm.not_mem_encodeChar hc), ih]
      simp [before, hc, encode_cons]

theorem IsMark.after_encode (hm : IsMark set mark) (cs : List Char) :
    after? mark (encode set cs) = (after? mark cs).map (encode set) := by
  induction cs with
  | nil => rfl
  | cons c cs ih =>
    rw [encode_cons]
    by_cases hc : c = mark
    · subst hc
      simp [hm.encodeChar, after?]
    · rw [after_append_of_not_mem (hm.not_mem_encodeChar hc), ih]
      simp [after?, hc]

theorem Transparent.pieces_encode (hs : Transparent set) (query : List Char) :
    pieces (encode set query) = (pieces query).map (encode set) := by
  have hempty : (fun piece : List Char => !piece.isEmpty) ∘ encode set =
      fun piece => !piece.isEmpty := by
    funext piece
    cases piece with
    | nil => rfl
    | cons c cs =>
      cases he : encode set (c :: cs) with
      | nil => exact absurd (encode_eq_nil_iff.mp he) (by simp)
      | cons d ds => simp [he]
  rw [pieces, hs.isMark_ampersand.splitOn_encode, List.filter_map, hempty]
  rfl

theorem Transparent.pieceName_encode (hs : Transparent set) (piece : List Char) :
    pieceName (encode set piece) = pieceName piece := by
  rw [pieceName, hs.isMark_equals.before_encode, hs.decodeText_encode]
  rfl

theorem Transparent.pieceValue_encode (hs : Transparent set) (piece : List Char) :
    pieceValue (encode set piece) = pieceValue piece := by
  rw [pieceValue, pieceValue, hs.isMark_equals.after_encode]
  cases after? '=' piece with
  | none => rfl
  | some value => exact hs.decodeText_encode value

/-- How a query was encoded does not show in its pairs. -/
theorem Transparent.pairs_encode (hs : Transparent set) (query : List Char) :
    pairs (encode set query) = pairs query := by
  simp [pairs, hs.pieces_encode, hs.pieceName_encode, hs.pieceValue_encode]

theorem Transparent.value_encode (hs : Transparent set) (name query : List Char) :
    value? name (encode set query) = value? name query := by
  rw [value?, hs.pairs_encode]
  rfl

theorem value_ne_nil {name query v : List Char} (h : value? name query = some v) : v ≠ [] := by
  obtain ⟨pair, hfind, rfl⟩ := Option.map_eq_some_iff.mp h
  have hp := List.find?_some hfind
  simp only [Bool.and_eq_true, Bool.not_eq_true'] at hp
  intro he
  simp [he] at hp

theorem value_isSome_iff {name query : List Char} :
    (value? name query).isSome ↔ ∃ value, value ≠ [] ∧ (name, value) ∈ pairs query := by
  rw [value?, Option.isSome_map, List.find?_isSome]
  constructor
  · rintro ⟨⟨found, value⟩, hmem, hp⟩
    simp only [Bool.and_eq_true, beq_iff_eq, Bool.not_eq_true', List.isEmpty_eq_false_iff] at hp
    obtain ⟨rfl, hne⟩ := hp
    exact ⟨value, hne, hmem⟩
  · rintro ⟨value, hne, hmem⟩
    exact ⟨_, hmem, by simpa using hne⟩

theorem value_eq_none_iff {name query : List Char} :
    value? name query = none ↔ ∀ value, (name, value) ∈ pairs query → value = [] := by
  rw [← Option.not_isSome_iff_eq_none, value_isSome_iff]
  constructor
  · intro h value hmem
    by_contra hne
    exact h ⟨value, hne, hmem⟩
  · rintro h ⟨value, hne, hmem⟩
    exact hne (h value hmem)

theorem size_pieceValue_le (piece : List Char) : size (pieceValue piece) ≤ size piece := by
  unfold pieceValue
  cases h : after? '=' piece with
  | none => exact Nat.zero_le _
  | some value =>
    have hv : (value : List Char).Sublist piece :=
      (List.sublist_cons_self '=' value).trans (after_suffix h).sublist
    exact (size_decodeText_le value).trans (size_le_of_sublist hv)

theorem size_value_le {name query v : List Char} (h : value? name query = some v) :
    size v ≤ size query := by
  obtain ⟨pair, hfind, rfl⟩ := Option.map_eq_some_iff.mp h
  obtain ⟨piece, hpiece, rfl⟩ := List.mem_map.mp (List.mem_of_find?_eq_some hfind)
  have hsplit := List.mem_of_mem_filter hpiece
  exact (size_pieceValue_le piece).trans (size_le_of_sublist (sublist_of_mem_splitOnP hsplit))

theorem value_append (name front back : List Char) :
    value? name (front ++ '&' :: back) = (value? name front).or (value? name back) := by
  unfold value? pairs pieces
  rw [List.splitOn_append_cons_self, List.filter_append, List.map_append, List.find?_append]
  cases List.find? _ (List.map _ (List.filter _ (front.splitOn '&'))) <;> simp

theorem pieces_intercalate {parts : List (List Char)} (h : ∀ part ∈ parts, '&' ∉ part) :
    pieces (['&'].intercalate parts) = parts.filter (!·.isEmpty) := by
  by_cases hne : parts = []
  · subst hne
    rfl
  · rw [pieces, List.splitOn_intercalate '&' h hne]

theorem value_eq_find (name query : List Char) : value? name query =
    ((pieces query).find? fun piece => pieceName piece == name && !(pieceValue piece).isEmpty).map
      pieceValue := by
  rw [value?, pairs, List.find?_map, Option.map_map]
  rfl

theorem value_intercalate {parts : List (List Char)} (h : ∀ part ∈ parts, '&' ∉ part)
    (name : List Char) : value? name (['&'].intercalate parts) =
      (parts.find? fun part => pieceName part == name && !(pieceValue part).isEmpty).map
        pieceValue := by
  rw [value_eq_find, pieces_intercalate h, List.find?_filter]
  refine congrArg (fun p => (parts.find? p).map pieceValue) (funext fun part => ?_)
  -- An empty piece has an empty value, and is passed over anyway.
  have hv : pieceValue [] = [] := rfl
  rw [Bool.eq_iff_iff]
  cases part <;> simp [hv]

theorem value_of_not_mem {query : List Char} (h : '&' ∉ query) (name : List Char) :
    value? name query =
      if pieceName query = name ∧ pieceValue query ≠ [] then some (pieceValue query) else none := by
  have hvalue := value_intercalate (List.forall_mem_singleton.mpr h) name
  rw [List.intercalate_singleton, List.find?_singleton] at hvalue
  rw [hvalue]
  by_cases hn : pieceName query = name ∧ pieceValue query ≠ [] <;> simp_all

section Assignment
variable {name : List Char}

theorem pieceName_assign (h : '=' ∉ name) (t : List Char) :
    pieceName (name ++ '=' :: t) = decodeText name := by
  rw [pieceName, before_append_of_not_mem h]
  simp [before]

theorem pieceValue_assign (h : '=' ∉ name) (t : List Char) :
    pieceValue (name ++ '=' :: t) = decodeText t := by
  rw [pieceValue, after_append_of_not_mem h]
  simp [after?]

theorem value_assign_of_not_mem (heq : '=' ∉ name) (hamp : '&' ∉ name) {t : List Char}
    (ht : '&' ∉ t) (other : List Char) : value? other (name ++ '=' :: t) =
      if decodeText name = other ∧ decodeText t ≠ [] then some (decodeText t) else none := by
  have hq : '&' ∉ name ++ '=' :: t := by simp [hamp, ht]
  rw [value_of_not_mem hq, pieceName_assign heq, pieceValue_assign heq]

theorem size_value_assign_lt (heq : '=' ∉ name) (hamp : '&' ∉ name) {t back v : List Char}
    (ha : after? '&' t = some back) {other : List Char}
    (h : value? other (name ++ '=' :: t) = some v) : size v < size t := by
  have hcut := before_append_after ha
  have hpos := ('&').utf8Size_pos
  have hpart : size (before '&' t) + (('&').utf8Size + size back) = size t := by
    rw [← congrArg size hcut, size_append, size_cons]
  have hsplit : name ++ '=' :: t = (name ++ '=' :: before '&' t) ++ '&' :: back := by
    rw [List.append_assoc, List.cons_append, hcut]
  rw [hsplit, value_append, value_assign_of_not_mem heq hamp (not_mem_before '&' t)] at h
  split at h
  · have hle := size_decodeText_le (before '&' t)
    rw [Option.some_or, Option.some.injEq] at h
    rw [h] at hle
    omega
  · have hle := size_value_le h
    omega

/-- What was assigned to a parameter, or a part of it, comes back only whole and undecoded. -/
theorem value_assign_eq_iff (hname : decodeText name = name) (heq : '=' ∉ name) (hamp : '&' ∉ name)
    {t v : List Char} (ht : t.Sublist v) (hv : v ≠ []) :
    value? name (name ++ '=' :: t) = some v ↔ t = v ∧ '&' ∉ v ∧ decodeText v = v := by
  constructor
  · intro h
    have hsize := size_le_of_sublist ht
    cases ha : after? '&' t with
    | some back =>
      have hlt := size_value_assign_lt heq hamp ha h
      omega
    | none =>
      have hmem := after_eq_none_iff.mp ha
      rw [value_assign_of_not_mem heq hamp hmem] at h
      split at h
      · have hle := size_decodeText_le t
        rw [Option.some.injEq] at h
        rw [h] at hle
        have htv := eq_of_sublist_of_size_le ht hle
        subst htv
        exact ⟨rfl, hmem, h⟩
      · cases h
  · rintro ⟨rfl, hmem, hdec⟩
    rw [value_assign_of_not_mem heq hamp hmem, hdec, if_pos ⟨hname, hv⟩]

end Assignment
end Permalink.Url.Form
