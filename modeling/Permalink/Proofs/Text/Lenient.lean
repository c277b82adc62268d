import Permalink.Proofs.Text.Size
import Permalink.Text.Utf8

set_option autoImplicit false

/-!
A byte that is read in the middle of a text may have been written with three characters, as an
escape. Under that price lenient decoding never lengthens a text: U+FFFD takes three bytes, and no
character more than four. The state of a scan keeps the price of what it has read.
-/

namespace Permalink.Text.Utf8

theorem toNat_char_ofNat {n : Nat} (h : n.isValidChar) : (Char.ofNat n).toNat = n := by
  rw [Char.ofNat, dif_pos h]
  rfl

/-- Lenient decoding that goes on from a state of the scan. -/
def resume (state : Option Unfinished) (bytes : List UInt8) : List Char :=
  (scan state bytes).map (·.getD '\uFFFD')

/-- An unfinished character waits for continuation bytes, and will not be an ASCII character. -/
structure Unfinished.Sound (p : Unfinished) : Prop where
  low : 0x80 ≤ p.low
  high : p.high ≤ 0xBF
  last : p.more = 0 → 2 ≤ p.bits
  next : 2 ≤ p.bits * 64 + (p.low - 0x80)

theorem lead_sound {b : Nat} {p : Unfinished} (h : lead? b = some p) : p.Sound := by
  obtain ⟨rfl, hb⟩ | ⟨low, high, rfl, hb, -, hlow, hhigh, hshort, -⟩ |
    ⟨low, high, rfl, hb, -, hlow, hhigh, hshort, -⟩ := lead_eq_some h
  · exact ⟨le_refl _, le_refl _, fun _ => by dsimp only; omega, by dsimp only; omega⟩
  · exact ⟨hlow, hhigh, fun he => (by cases he), by dsimp only; omega⟩
  · exact ⟨hlow, hhigh, fun he => (by cases he), by dsimp only; omega⟩

theorem start_sound {b : Nat} {p : Unfinished} (h : (start b).2 = some p) : p.Sound := by
  unfold start at h
  split at h
  · cases h
  · cases hl : lead? b with
    | none => simp [hl] at h
    | some q =>
      simp only [hl, Option.some.injEq] at h
      exact h ▸ lead_sound hl

theorem Unfinished.Sound.continue {more low high bits b : Nat}
    (h : (⟨more + 1, low, high, bits⟩ : Unfinished).Sound) (hb : low ≤ b) :
    (⟨more, 0x80, 0xBF, bits * 64 + (b - 0x80)⟩ : Unfinished).Sound := by
  have hnext : 2 ≤ bits * 64 + (low - 0x80) := h.next
  have hbits : 2 ≤ bits * 64 + (b - 0x80) := by omega
  exact ⟨le_refl _, le_refl _, fun _ => hbits, by simp only; omega⟩

/-- What the bytes of an unfinished character have paid for. -/
def credit : Option Unfinished → Nat
  | none => 0
  | some _ => 3

theorem size_start (b : Nat) :
    size ((start b).1.map (·.getD '\uFFFD')) + credit (start b).2 ≤ 3 := by
  unfold start
  split
  · rename_i h
    have hone : (Char.ofNat b).utf8Size = 1 := by
      rw [Char.utf8Size_eq_one_iff, UInt32.le_iff_toNat_le]
      change (Char.ofNat b).toNat ≤ 127
      rw [toNat_char_ofNat (Or.inl (by omega))]
      omega
    simp [credit, hone]
  · cases lead? b with
    | none => decide
    | some p => simp [credit]

/-- One byte, at the price of three. -/
theorem scan_byte {state : Option Unfinished} (h : ∀ p ∈ state, p.Sound) (b : UInt8) :
    ∃ out next, (∀ bs, scan state (b :: bs) = out ++ scan next bs) ∧ (∀ p ∈ next, p.Sound) ∧
      size (out.map (·.getD '\uFFFD')) + credit next ≤ credit state + 3 := by
  cases state with
  | none =>
    refine ⟨(start b.toNat).1, (start b.toNat).2, fun bs => rfl, fun p hp => start_sound hp, ?_⟩
    have hs := size_start b.toNat
    simp only [credit] at hs ⊢
    omega
  | some p =>
    by_cases hr : p.low ≤ b.toNat ∧ b.toNat ≤ p.high
    · obtain ⟨more, low, high, bits⟩ := p
      cases more with
      | zero =>
        refine ⟨[some (Char.ofNat (bits * 64 + (b.toNat - 0x80)))], none,
          fun bs => scan_last hr.1 hr.2 bs, by simp, ?_⟩
        have hsize := (Char.ofNat (bits * 64 + (b.toNat - 0x80))).utf8Size_le_four
        simp [credit]
        omega
      | succ more =>
        refine ⟨[], some ⟨more, 0x80, 0xBF, bits * 64 + (b.toNat - 0x80)⟩,
          fun bs => scan_more hr.1 hr.2 bs, ?_, by simp [credit]⟩
        intro q hq
        cases hq
        exact (h _ rfl).continue hr.1
    · -- U+FFFD stands for the unfinished character, and the byte is read as one between characters.
      refine ⟨none :: (start b.toNat).1, (start b.toNat).2, fun bs => by simp [scan, hr],
        fun q hq => start_sound hq, ?_⟩
      have hs := size_start b.toNat
      have hrep : ('\uFFFD').utf8Size = 3 := by decide
      simp only [List.map_cons, Option.getD_none, size_cons, credit] at hs ⊢
      omega

theorem utf8EncodeChar_head (c : Char) : ∃ b bs, String.utf8EncodeChar c = b :: bs ∧
    (b.toNat < 0x80 ∨ 0xBF < b.toNat) := by
  have valid := c.valid
  unfold String.utf8EncodeChar
  simp only
  generalize hv : c.val.toNat = v at *
  have bound : v < 0xD800 ∨ (0xDFFF < v ∧ v < 0x110000) := by
    simpa [UInt32.isValidChar, Nat.isValidChar, hv] using valid
  clear valid
  split
  · exact ⟨_, _, rfl, Or.inl (by rw [toNat_ofNat_of_lt (by omega)]; omega)⟩
  split
  · exact ⟨_, _, rfl, Or.inr (by rw [toNat_ofNat_of_lt (by omega)]; omega)⟩
  split
  · exact ⟨_, _, rfl, Or.inr (by rw [toNat_ofNat_of_lt (by omega)]; omega)⟩
  · exact ⟨_, _, rfl, Or.inr (by rw [toNat_ofNat_of_lt (by omega)]; omega)⟩

theorem scan_some_of_not_mem {p : Unfinished} {b : UInt8}
    (h : ¬ (p.low ≤ b.toNat ∧ b.toNat ≤ p.high)) (bs : List UInt8) :
    scan (some p) (b :: bs) = none :: scan none (b :: bs) := by
  simp [scan, h]

/-- A whole character ends whatever was unfinished before it. -/
theorem resume_utf8EncodeChar {state : Option Unfinished} (h : ∀ p ∈ state, p.Sound) (c : Char)
    (bs : List UInt8) : ∃ broken, size broken = credit state ∧
      resume state (String.utf8EncodeChar c ++ bs) = broken ++ c :: decodeLenient bs := by
  cases state with
  | none =>
    refine ⟨[], rfl, ?_⟩
    simp [resume, decodeLenient, scan_utf8EncodeChar]
  | some p =>
    obtain ⟨b, more, he, hb⟩ := utf8EncodeChar_head c
    have hp := h p rfl
    have hlow := hp.low
    have hhigh := hp.high
    have hchar := scan_utf8EncodeChar c bs
    refine ⟨['\uFFFD'], rfl, ?_⟩
    rw [he, List.cons_append] at hchar ⊢
    rw [resume, scan_some_of_not_mem (by omega), hchar]
    rfl

theorem decodeLenient_utf8EncodeChar (c : Char) (bs : List UInt8) :
    decodeLenient (String.utf8EncodeChar c ++ bs) = c :: decodeLenient bs := by
  simp [decodeLenient, scan_utf8EncodeChar]

theorem decodeLenient_ascii {b : UInt8} (h : b.toNat < 0x80) (bs : List UInt8) :
    decodeLenient (b :: bs) = Char.ofNat b.toNat :: decodeLenient bs := by
  simp [decodeLenient, scan_ascii h]

theorem ofNat_ne_percent {n : Nat} (h : 0x80 ≤ n) : Char.ofNat n ≠ '%' := by
  intro he
  by_cases hv : n.isValidChar
  · have ht := toNat_char_ofNat hv
    rw [he] at ht
    change 37 = n at ht
    omega
  · rw [Char.ofNat, dif_neg hv] at he
    exact absurd he (by decide)

theorem head_resume_some {p : Unfinished} (h : p.Sound) (bytes : List UInt8) :
    (resume (some p) bytes).head? ≠ some '%' := by
  induction bytes generalizing p with
  | nil => exact (by decide : some '\uFFFD' ≠ some '%')
  | cons b bs ih =>
    by_cases hr : p.low ≤ b.toNat ∧ b.toNat ≤ p.high
    · obtain ⟨more, low, high, bits⟩ := p
      cases more with
      | zero =>
        have hbits : 2 ≤ bits := h.last rfl
        rw [resume, scan_last hr.1 hr.2]
        simpa using ofNat_ne_percent (by omega)
      | succ more =>
        rw [resume, scan_more hr.1 hr.2]
        exact ih (h.continue hr.1)
    · rw [resume, scan_some_of_not_mem hr]
      simp

theorem head_decodeLenient {b : UInt8} (h : 0x80 ≤ b.toNat) (bs : List UInt8) :
    (decodeLenient (b :: bs)).head? ≠ some '%' := by
  have hb : ¬ b.toNat < 0x80 := by omega
  cases hl : lead? b.toNat with
  | none => simp [decodeLenient, scan, start, hb, hl]
  | some p =>
    rw [decodeLenient, scan_lead hl]
    exact head_resume_some (lead_sound hl) bs

end Permalink.Text.Utf8
