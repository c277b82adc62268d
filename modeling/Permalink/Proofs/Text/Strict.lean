import Permalink.Proofs.Text.Cut
import Permalink.Proofs.Text.Lenient

set_option autoImplicit false

namespace Permalink.Text.Utf8

def IsUtf8 (bytes : List UInt8) : Prop := ∃ cs, bytes = encode cs

theorem encode_cons (c : Char) (cs : List Char) :
    encode (c :: cs) = String.utf8EncodeChar c ++ encode cs := List.flatMap_cons

theorem ofNat_eq_of_toNat {n : Nat} {b : UInt8} (h : n = b.toNat) : UInt8.ofNat n = b := by
  rw [h, UInt8.ofNat_toNat]

theorem utf8EncodeChar_one {a : UInt8} (ha : a.toNat < 0x80) :
    String.utf8EncodeChar (Char.ofNat a.toNat) = [a] := by
  have hv : (Char.ofNat a.toNat).val.toNat = a.toNat := toNat_char_ofNat (.inl (by omega))
  simp only [String.utf8EncodeChar, hv]
  rw [if_pos (by omega), UInt8.ofNat_toNat]

theorem utf8EncodeChar_two {a b : UInt8} {n : Nat} (hn : n = (a.toNat - 0xC0) * 64 + (b.toNat - 0x80))
    (ha : 0xC2 ≤ a.toNat ∧ a.toNat ≤ 0xDF) (hb : 0x80 ≤ b.toNat ∧ b.toNat ≤ 0xBF) :
    String.utf8EncodeChar (Char.ofNat n) = [a, b] := by
  have hv : (Char.ofNat n).val.toNat = n := toNat_char_ofNat (.inl (by omega))
  simp only [String.utf8EncodeChar, hv]
  rw [if_neg (by omega), if_pos (by omega), ofNat_eq_of_toNat (b := a) (by omega),
    ofNat_eq_of_toNat (b := b) (by omega)]

theorem utf8EncodeChar_three {a b c : UInt8} {n : Nat}
    (hn : n = ((a.toNat - 0xE0) * 64 + (b.toNat - 0x80)) * 64 + (c.toNat - 0x80))
    (ha : 0xE0 ≤ a.toNat ∧ a.toNat ≤ 0xEF) (hb : 0x80 ≤ b.toNat ∧ b.toNat ≤ 0xBF)
    (hc : 0x80 ≤ c.toNat ∧ c.toNat ≤ 0xBF) (hlow : a.toNat = 0xE0 → 0xA0 ≤ b.toNat)
    (hhigh : a.toNat = 0xED → b.toNat ≤ 0x9F) :
    String.utf8EncodeChar (Char.ofNat n) = [a, b, c] := by
  have valid : n.isValidChar := by
    unfold Nat.isValidChar
    omega
  have hv : (Char.ofNat n).val.toNat = n := toNat_char_ofNat valid
  simp only [String.utf8EncodeChar, hv]
  rw [if_neg (by omega), if_neg (by omega), if_pos (by omega),
    ofNat_eq_of_toNat (b := a) (by omega), ofNat_eq_of_toNat (b := b) (by omega),
    ofNat_eq_of_toNat (b := c) (by omega)]

theorem utf8EncodeChar_four {a b c d : UInt8} {n : Nat}
    (hn : n = (((a.toNat - 0xF0) * 64 + (b.toNat - 0x80)) * 64 + (c.toNat - 0x80)) * 64 +
      (d.toNat - 0x80))
    (ha : 0xF0 ≤ a.toNat ∧ a.toNat ≤ 0xF4) (hb : 0x80 ≤ b.toNat ∧ b.toNat ≤ 0xBF)
    (hc : 0x80 ≤ c.toNat ∧ c.toNat ≤ 0xBF) (hd : 0x80 ≤ d.toNat ∧ d.toNat ≤ 0xBF)
    (hlow : a.toNat = 0xF0 → 0x90 ≤ b.toNat) (hhigh : a.toNat = 0xF4 → b.toNat ≤ 0x8F) :
    String.utf8EncodeChar (Char.ofNat n) = [a, b, c, d] := by
  have valid : n.isValidChar := by
    unfold Nat.isValidChar
    omega
  have hv : (Char.ofNat n).val.toNat = n := toNat_char_ofNat valid
  simp only [String.utf8EncodeChar, hv]
  rw [if_neg (by omega), if_neg (by omega), if_neg (by omega),
    ofNat_eq_of_toNat (b := a) (by omega), ofNat_eq_of_toNat (b := b) (by omega),
    ofNat_eq_of_toNat (b := c) (by omega), ofNat_eq_of_toNat (b := d) (by omega)]

variable {p : Unfinished} {bytes : List UInt8} {cs : List Char}

/-- An unfinished character goes on with a byte between its bounds. -/
theorem exists_of_scan_some (h : scan (some p) bytes = cs.map some) :
    ∃ b rest, bytes = b :: rest ∧ p.low ≤ b.toNat ∧ b.toNat ≤ p.high := by
  cases bytes with
  | nil =>
    cases cs <;> cases h
  | cons b rest =>
    refine ⟨b, rest, rfl, ?_⟩
    by_contra hr
    rw [scan_some_of_not_mem hr] at h
    cases cs <;> cases h

theorem last_of_scan {low high bits : Nat}
    (h : scan (some ⟨0, low, high, bits⟩) bytes = cs.map some) :
    ∃ b rest cs', bytes = b :: rest ∧ low ≤ b.toNat ∧ b.toNat ≤ high ∧
      cs = Char.ofNat (bits * 64 + (b.toNat - 0x80)) :: cs' ∧ scan none rest = cs'.map some := by
  obtain ⟨b, rest, rfl, hlow, hhigh⟩ := exists_of_scan_some h
  rw [scan_last hlow hhigh] at h
  obtain ⟨c, cs', rfl, hc, hrest⟩ := List.map_eq_cons_iff.mp h.symm
  exact ⟨b, rest, cs', rfl, hlow, hhigh, by rw [Option.some.inj hc], hrest.symm⟩

theorem more_of_scan {more low high bits : Nat}
    (h : scan (some ⟨more + 1, low, high, bits⟩) bytes = cs.map some) :
    ∃ b rest, bytes = b :: rest ∧ low ≤ b.toNat ∧ b.toNat ≤ high ∧
      scan (some ⟨more, 0x80, 0xBF, bits * 64 + (b.toNat - 0x80)⟩) rest = cs.map some := by
  obtain ⟨b, rest, rfl, hlow, hhigh⟩ := exists_of_scan_some h
  exact ⟨b, rest, rfl, hlow, hhigh, scan_more hlow hhigh rest ▸ h⟩

theorem exists_char_of_scan {b : UInt8} (h : scan none (b :: bytes) = cs.map some) :
    ∃ c rest cs', b :: bytes = String.utf8EncodeChar c ++ rest ∧ cs = c :: cs' ∧
      scan none rest = cs'.map some := by
  by_cases hb : b.toNat < 0x80
  · rw [scan_ascii hb] at h
    obtain ⟨c, cs', rfl, hc, hrest⟩ := List.map_eq_cons_iff.mp h.symm
    refine ⟨c, bytes, cs', ?_, rfl, hrest.symm⟩
    rw [Option.some.inj hc, utf8EncodeChar_one hb]
    rfl
  cases hl : lead? b.toNat with
  | none =>
    have hscan : scan none (b :: bytes) = none :: scan none bytes := by simp [scan, start, hb, hl]
    rw [hscan] at h
    cases cs <;> cases h
  | some p =>
    rw [scan_lead hl] at h
    -- The bounds on the second byte leave no shorter form, no surrogate and nothing too large.
    obtain ⟨rfl, hb⟩ | ⟨low, high, rfl, hb, hb', hlow, hhigh, hshort, hsurrogate⟩ |
      ⟨low, high, rfl, hb, hb', hlow, hhigh, hshort, hlarge⟩ := lead_eq_some hl
    · obtain ⟨b₁, rest, cs', rfl, h₁, h₁', rfl, hrest⟩ := last_of_scan h
      have hchar := utf8EncodeChar_two rfl hb ⟨h₁, h₁'⟩
      exact ⟨_, rest, cs', by rw [hchar]; rfl, rfl, hrest⟩
    · obtain ⟨b₁, rest, rfl, h₁, h₁', h⟩ := more_of_scan h
      obtain ⟨b₂, rest, cs', rfl, h₂, h₂', rfl, hrest⟩ := last_of_scan h
      have hchar := utf8EncodeChar_three rfl ⟨hb, hb'⟩ ⟨by omega, by omega⟩ ⟨h₂, h₂'⟩
        (fun he => (hshort he).trans h₁) fun he => h₁'.trans (hsurrogate he)
      exact ⟨_, rest, cs', by rw [hchar]; rfl, rfl, hrest⟩
    · obtain ⟨b₁, rest, rfl, h₁, h₁', h⟩ := more_of_scan h
      obtain ⟨b₂, rest, rfl, h₂, h₂', h⟩ := more_of_scan h
      obtain ⟨b₃, rest, cs', rfl, h₃, h₃', rfl, hrest⟩ := last_of_scan h
      have hchar := utf8EncodeChar_four rfl ⟨hb, hb'⟩ ⟨by omega, by omega⟩ ⟨h₂, h₂'⟩ ⟨h₃, h₃'⟩
        (fun he => (hshort he).trans h₁) fun he => h₁'.trans (hlarge he)
      exact ⟨_, rest, cs', by rw [hchar]; rfl, rfl, hrest⟩

theorem eq_encode_of_scan (h : scan none bytes = cs.map some) : bytes = encode cs := by
  induction cs generalizing bytes with
  | nil =>
    cases bytes with
    | nil => rfl
    | cons b bytes =>
      obtain ⟨c, rest, cs', -, hcs, -⟩ := exists_char_of_scan h
      cases hcs
  | cons c cs ih =>
    cases bytes with
    | nil => cases h
    | cons b bytes =>
      obtain ⟨c', rest, cs', hbytes, hcs, hrest⟩ := exists_char_of_scan h
      cases hcs
      rw [hbytes, encode_cons, ih hrest]

theorem decode_eq_some_iff : decode? bytes = some cs ↔ bytes = encode cs := by
  rw [decode?, mapM_eq_some_iff, List.map_id]
  refine ⟨eq_encode_of_scan, ?_⟩
  rintro rfl
  exact scan_encode cs

theorem encode_eq_nil_iff : encode cs = [] ↔ cs = [] := by
  rw [eq_comm, ← decode_eq_some_iff, eq_comm (a := cs)]
  exact Option.some_inj

theorem isUtf8_iff : IsUtf8 bytes ↔ (decode? bytes).isSome = true := by
  simp [IsUtf8, Option.isSome_iff_exists, decode_eq_some_iff]

instance (bytes : List UInt8) : Decidable (IsUtf8 bytes) := decidable_of_iff' _ isUtf8_iff

/-- A character has one byte, its code, or bytes beyond ASCII alone. -/
theorem utf8EncodeChar_ascii_or (c : Char) :
    (c.toNat < 0x80 ∧ String.utf8EncodeChar c = [UInt8.ofNat c.toNat]) ∨
      (0x80 ≤ c.toNat ∧ ∀ b ∈ String.utf8EncodeChar c, 0x80 ≤ b.toNat) := by
  have hlt : c.val.toNat < 0x110000 := by
    have valid : c.val.toNat.isValidChar := c.valid
    unfold Nat.isValidChar at valid
    omega
  simp only [String.utf8EncodeChar]
  change (c.val.toNat < _ ∧ _) ∨ (_ ≤ c.val.toNat ∧ _)
  split
  · exact .inl ⟨by omega, rfl⟩
  split
  · refine .inr ⟨by omega, ?_⟩
    simp only [List.forall_mem_cons]
    refine ⟨?_, ?_, nofun⟩ <;> (rw [toNat_ofNat_of_lt (by omega)]; omega)
  split
  · refine .inr ⟨by omega, ?_⟩
    simp only [List.forall_mem_cons]
    refine ⟨?_, ?_, ?_, nofun⟩ <;> (rw [toNat_ofNat_of_lt (by omega)]; omega)
  · refine .inr ⟨by omega, ?_⟩
    simp only [List.forall_mem_cons]
    refine ⟨?_, ?_, ?_, ?_, nofun⟩ <;> (rw [toNat_ofNat_of_lt (by omega)]; omega)

theorem mem_utf8EncodeChar_iff {b : UInt8} (hb : b.toNat < 0x80) {c : Char} :
    b ∈ String.utf8EncodeChar c ↔ c = Char.ofNat b.toNat := by
  have hback : (Char.ofNat b.toNat).toNat = b.toNat := toNat_char_ofNat (.inl (by omega))
  obtain ⟨hc, hbytes⟩ | ⟨hc, hbytes⟩ := utf8EncodeChar_ascii_or c
  · rw [hbytes, List.mem_singleton, ← UInt8.toNat_inj, toNat_ofNat_of_lt (by omega)]
    exact ⟨fun he => by rw [he, Char.ofNat_toNat], fun he => by rw [he, hback]⟩
  · refine ⟨fun hmem => absurd (hbytes b hmem) (by omega), fun he => ?_⟩
    rw [he, hback] at hc
    omega

theorem mem_encode_iff {b : UInt8} (hb : b.toNat < 0x80) :
    b ∈ encode cs ↔ Char.ofNat b.toNat ∈ cs := by
  simp [encode, mem_utf8EncodeChar_iff hb]

theorem encode_concat (cs : List Char) (c : Char) :
    encode (cs ++ [c]) = encode cs ++ String.utf8EncodeChar c := by simp [encode]

theorem getLast?_encode_iff {b : UInt8} (hb : b.toNat < 0x80) :
    (encode cs).getLast? = some b ↔ cs.getLast? = some (Char.ofNat b.toNat) := by
  induction cs using List.reverseRecOn with
  | nil => simp [encode]
  | append_singleton cs c _ =>
    rw [encode_concat, List.getLast?_concat, Option.some_inj, ← mem_utf8EncodeChar_iff hb,
      List.getLast?_append_of_ne_nil _ String.utf8EncodeChar_ne_nil]
    obtain ⟨_, hbytes⟩ | ⟨_, hbytes⟩ := utf8EncodeChar_ascii_or c
    · rw [hbytes]
      simp [eq_comm]
    · have hnot : b ∉ String.utf8EncodeChar c := fun hmem => absurd (hbytes b hmem) (by omega)
      exact ⟨fun hlast => List.mem_of_getLast? hlast, fun hmem => absurd hmem hnot⟩

end Permalink.Text.Utf8
