set_option autoImplicit false

namespace Permalink.Text.Utf8

/-- What a scan has read of an unfinished character. -/
structure Unfinished where
  /-- Bytes still owed, not counting the next one. -/
  more : Nat
  /-- Bounds of the next byte. -/
  low : Nat
  high : Nat
  bits : Nat
deriving DecidableEq, Repr

def lead? (b : Nat) : Option Unfinished :=
  if 0xC2 ≤ b ∧ b ≤ 0xDF then some ⟨0, 0x80, 0xBF, b - 0xC0⟩
  else if b = 0xE0 then some ⟨1, 0xA0, 0xBF, 0⟩
  else if b = 0xED then some ⟨1, 0x80, 0x9F, 0xD⟩
  else if 0xE1 ≤ b ∧ b ≤ 0xEF then some ⟨1, 0x80, 0xBF, b - 0xE0⟩
  else if b = 0xF0 then some ⟨2, 0x90, 0xBF, 0⟩
  else if 0xF1 ≤ b ∧ b ≤ 0xF3 then some ⟨2, 0x80, 0xBF, b - 0xF0⟩
  else if b = 0xF4 then some ⟨2, 0x80, 0x8F, 4⟩
  else none

/-- A byte read between characters: what it completes, and what it begins. -/
def start (b : Nat) : List (Option Char) × Option Unfinished :=
  if b < 0x80 then ([some (Char.ofNat b)], none)
  else match lead? b with
    | some p => ([], some p)
    | none => ([none], none)

/-- The characters of a text, with `none` for each malformed piece. -/
def scan : Option Unfinished → List UInt8 → List (Option Char)
  | none, [] => []
  | some _, [] => [none]
  | none, b :: bs => (start b.toNat).1 ++ scan (start b.toNat).2 bs
  | some p, b :: bs =>
    if p.low ≤ b.toNat ∧ b.toNat ≤ p.high then
      match p.more with
      | 0 => some (Char.ofNat (p.bits * 64 + (b.toNat - 0x80))) :: scan none bs
      | more + 1 => scan (some ⟨more, 0x80, 0xBF, p.bits * 64 + (b.toNat - 0x80)⟩) bs
    else none :: (start b.toNat).1 ++ scan (start b.toNat).2 bs

/-- Strict decoding: malformed bytes anywhere refuse the whole text. -/
def decode? (bytes : List UInt8) : Option (List Char) :=
  (scan none bytes).mapM id

/-- Lenient decoding: U+FFFD stands for each malformed piece. -/
def decodeLenient (bytes : List UInt8) : List Char :=
  (scan none bytes).map (·.getD '\uFFFD')

def encode (cs : List Char) : List UInt8 :=
  cs.flatMap String.utf8EncodeChar

example : decode? [0x61, 0xC3, 0xA9, 0xF0, 0x9F, 0x98, 0x80] = some ['a', 'é', '😀'] := by decide
example : decodeLenient [0xE2, 0x82, 0x41, 0xFF, 0xED, 0xA0, 0x80] =
    ['\uFFFD', 'A', '\uFFFD', '\uFFFD', '\uFFFD', '\uFFFD'] := by decide

theorem toNat_ofNat_of_lt {n : Nat} (h : n < 256) : (UInt8.ofNat n).toNat = n := by
  simp [Nat.mod_eq_of_lt h]

theorem scan_ascii {b : UInt8} (h : b.toNat < 0x80) (bs : List UInt8) :
    scan none (b :: bs) = some (Char.ofNat b.toNat) :: scan none bs := by
  simp [scan, start, h]

/-- The bounds of the second byte leave out what has a shorter form, the surrogates, and what is
beyond the last code point. -/
theorem lead_eq_some {b : Nat} {p : Unfinished} (h : lead? b = some p) :
    (p = ⟨0, 0x80, 0xBF, b - 0xC0⟩ ∧ 0xC2 ≤ b ∧ b ≤ 0xDF) ∨
      (∃ low high, p = ⟨1, low, high, b - 0xE0⟩ ∧ 0xE0 ≤ b ∧ b ≤ 0xEF ∧ 0x80 ≤ low ∧
        high ≤ 0xBF ∧ (b = 0xE0 → 0xA0 ≤ low) ∧ (b = 0xED → high ≤ 0x9F)) ∨
      ∃ low high, p = ⟨2, low, high, b - 0xF0⟩ ∧ 0xF0 ≤ b ∧ b ≤ 0xF4 ∧ 0x80 ≤ low ∧
        high ≤ 0xBF ∧ (b = 0xF0 → 0x90 ≤ low) ∧ (b = 0xF4 → high ≤ 0x8F) := by
  unfold lead? at h
  split at h
  · cases h
    exact .inl ⟨rfl, by omega⟩
  split at h
  · cases h
    exact .inr (.inl ⟨0xA0, 0xBF, by simp_all, by omega⟩)
  split at h
  · cases h
    exact .inr (.inl ⟨0x80, 0x9F, by simp_all, by omega⟩)
  split at h
  · cases h
    exact .inr (.inl ⟨0x80, 0xBF, rfl, by omega⟩)
  split at h
  · cases h
    exact .inr (.inr ⟨0x90, 0xBF, by simp_all, by omega⟩)
  split at h
  · cases h
    exact .inr (.inr ⟨0x80, 0xBF, rfl, by omega⟩)
  split at h
  · cases h
    exact .inr (.inr ⟨0x80, 0x8F, by simp_all, by omega⟩)
  · cases h

theorem scan_lead {b : UInt8} {p : Unfinished} (h : lead? b.toNat = some p) (bs : List UInt8) :
    scan none (b :: bs) = scan (some p) bs := by
  have high : ¬ b.toNat < 0x80 := by
    obtain ⟨-, hb⟩ | ⟨_, _, -, hb, -⟩ | ⟨_, _, -, hb, -⟩ := lead_eq_some h <;> omega
  simp [scan, start, high, h]

theorem scan_last {low high bits : Nat} {b : UInt8} (hlow : low ≤ b.toNat) (hhigh : b.toNat ≤ high)
    (bs : List UInt8) :
    scan (some ⟨0, low, high, bits⟩) (b :: bs) =
      some (Char.ofNat (bits * 64 + (b.toNat - 0x80))) :: scan none bs := by
  simp [scan, hlow, hhigh]

theorem scan_more {more low high bits : Nat} {b : UInt8} (hlow : low ≤ b.toNat)
    (hhigh : b.toNat ≤ high) (bs : List UInt8) :
    scan (some ⟨more + 1, low, high, bits⟩) (b :: bs) =
      scan (some ⟨more, 0x80, 0xBF, bits * 64 + (b.toNat - 0x80)⟩) bs := by
  simp [scan, hlow, hhigh]

theorem scan_utf8EncodeChar (c : Char) (bs : List UInt8) :
    scan none (String.utf8EncodeChar c ++ bs) = some c :: scan none bs := by
  have valid := c.valid
  have back : Char.ofNat c.val.toNat = c := Char.ofNat_toNat c
  unfold String.utf8EncodeChar
  simp only
  generalize hv : c.val.toNat = v at *
  have bound : v < 0xD800 ∨ (0xDFFF < v ∧ v < 0x110000) := by
    simpa [UInt32.isValidChar, Nat.isValidChar, hv] using valid
  clear valid
  split
  · rename_i h
    have e : (UInt8.ofNat v).toNat = v := toNat_ofNat_of_lt (by omega)
    rw [List.cons_append, List.nil_append, scan_ascii (by omega), e, back]
  split
  · rename_i h1 h2
    have e1 : (UInt8.ofNat (v / 64 % 32 + 192)).toNat = v / 64 + 0xC0 := by
      rw [toNat_ofNat_of_lt (by omega)]; omega
    have e2 : (UInt8.ofNat (v % 64 + 128)).toNat = v % 64 + 128 := toNat_ofNat_of_lt (by omega)
    have l : lead? (v / 64 + 0xC0) = some ⟨0, 0x80, 0xBF, v / 64⟩ := by
      unfold lead?
      rw [if_pos (by omega)]
      simp
    simp only [List.cons_append, List.nil_append]
    rw [scan_lead (by rw [e1]; exact l), scan_last (by omega) (by omega)]
    simp only [e2]
    rw [show v / 64 * 64 + (v % 64 + 128 - 0x80) = v by omega, back]
  split
  · rename_i h1 h2 h3
    have e1 : (UInt8.ofNat (v / 4096 % 16 + 224)).toNat = v / 4096 + 0xE0 := by
      rw [toNat_ofNat_of_lt (by omega)]; omega
    have e2 : (UInt8.ofNat (v / 64 % 64 + 128)).toNat = v / 64 % 64 + 128 :=
      toNat_ofNat_of_lt (by omega)
    have e3 : (UInt8.ofNat (v % 64 + 128)).toNat = v % 64 + 128 := toNat_ofNat_of_lt (by omega)
    obtain ⟨low, high, l, hlow, hhigh⟩ : ∃ low high, lead? (v / 4096 + 0xE0) =
        some ⟨1, low, high, v / 4096⟩ ∧ low ≤ v / 64 % 64 + 128 ∧ v / 64 % 64 + 128 ≤ high := by
      unfold lead?
      rw [if_neg (by omega)]
      split
      · exact ⟨0xA0, 0xBF, by simp; omega, by omega, by omega⟩
      split
      · exact ⟨0x80, 0x9F, by simp; omega, by omega, by omega⟩
      rw [if_pos (by omega)]
      exact ⟨0x80, 0xBF, by simp, by omega, by omega⟩
    simp only [List.cons_append, List.nil_append]
    rw [scan_lead (by rw [e1]; exact l), scan_more (by omega) (by omega)]
    simp only [e2]
    rw [scan_last (by omega) (by omega)]
    simp only [e3]
    rw [show (v / 4096 * 64 + (v / 64 % 64 + 128 - 0x80)) * 64 + (v % 64 + 128 - 0x80) = v by omega,
      back]
  · rename_i h1 h2 h3
    have e1 : (UInt8.ofNat (v / 262144 % 8 + 240)).toNat = v / 262144 + 0xF0 := by
      rw [toNat_ofNat_of_lt (by omega)]; omega
    have e2 : (UInt8.ofNat (v / 4096 % 64 + 128)).toNat = v / 4096 % 64 + 128 :=
      toNat_ofNat_of_lt (by omega)
    have e3 : (UInt8.ofNat (v / 64 % 64 + 128)).toNat = v / 64 % 64 + 128 :=
      toNat_ofNat_of_lt (by omega)
    have e4 : (UInt8.ofNat (v % 64 + 128)).toNat = v % 64 + 128 := toNat_ofNat_of_lt (by omega)
    obtain ⟨low, high, l, hlow, hhigh⟩ : ∃ low high, lead? (v / 262144 + 0xF0) =
        some ⟨2, low, high, v / 262144⟩ ∧ low ≤ v / 4096 % 64 + 128 ∧
          v / 4096 % 64 + 128 ≤ high := by
      unfold lead?
      rw [if_neg (by omega), if_neg (by omega), if_neg (by omega), if_neg (by omega)]
      split
      · exact ⟨0x90, 0xBF, by simp; omega, by omega, by omega⟩
      split
      · exact ⟨0x80, 0xBF, by simp, by omega, by omega⟩
      rw [if_pos (by omega)]
      exact ⟨0x80, 0x8F, by simp; omega, by omega, by omega⟩
    simp only [List.cons_append, List.nil_append]
    rw [scan_lead (by rw [e1]; exact l), scan_more (by omega) (by omega)]
    simp only [e2]
    rw [scan_more (by omega) (by omega)]
    simp only [e3]
    rw [scan_last (by omega) (by omega)]
    simp only [e4]
    rw [show ((v / 262144 * 64 + (v / 4096 % 64 + 128 - 0x80)) * 64 + (v / 64 % 64 + 128 - 0x80)) *
        64 + (v % 64 + 128 - 0x80) = v by omega, back]

theorem scan_encode (cs : List Char) : scan none (encode cs) = cs.map some := by
  induction cs with
  | nil => rfl
  | cons c cs ih =>
    have e : encode (c :: cs) = String.utf8EncodeChar c ++ encode cs := List.flatMap_cons
    rw [e, scan_utf8EncodeChar, ih, List.map_cons]

theorem decode_encode (cs : List Char) : decode? (encode cs) = some cs := by
  unfold decode?
  rw [scan_encode]
  induction cs with
  | nil => rfl
  | cons c cs ih => simp_all

theorem decodeLenient_encode (cs : List Char) : decodeLenient (encode cs) = cs := by
  simp [decodeLenient, scan_encode, Function.comp_def]

end Permalink.Text.Utf8
