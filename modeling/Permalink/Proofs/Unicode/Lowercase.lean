import Permalink.Proofs.Unicode.Capital
import Permalink.Unicode.Lowercase

set_option autoImplicit false

/-!
The Kelvin sign alone is a character beyond ASCII whose lower case is all ASCII, and it is `k`. A
text is therefore lowered to an ASCII word without that letter only if it is the word itself, up to
the case of ASCII letters.
-/

namespace Permalink.Unicode

/-- A code point that is neither a letter, a digit nor a mark of ASCII, or that of `k`. -/
def isForeign (n : Nat) : Bool := n ≤ 0x20 || 0x7F ≤ n || n == 0x6B

theorem isForeign_of_le {n : Nat} (h : 0x7F ≤ n) : isForeign n = true := by
  simp [isForeign, h]

theorem isForeign_ofNat {n : Nat} (h : isForeign n = true) :
    isForeign (Char.ofNat n).toNat = true := by
  by_cases hv : n.isValidChar
  · rw [Text.Utf8.toNat_char_ofNat hv]
    exact h
  · rw [Char.ofNat, dif_neg hv]
    decide

namespace Substitution

def keepsForeign : Substitution → Bool
  | .moved _ last _ target => last < 0x80 || 0x7F ≤ target
  | .listed _ targets => targets.all fun target => target.any isForeign

theorem exists_foreign_of_replacement {s : Substitution} (h : s.keepsForeign = true) {n : Nat}
    (hn : 0x80 ≤ n) {target : List Nat} (ht : s.replacement? n = some target) :
    ∃ m ∈ target, isForeign m = true := by
  cases s with
  | moved first last step start =>
    rw [keepsForeign, Bool.or_eq_true, decide_eq_true_eq, decide_eq_true_eq] at h
    rw [replacement?] at ht
    split at ht
    · obtain rfl := Option.some.inj ht
      exact ⟨_, List.mem_singleton.mpr rfl, isForeign_of_le (by omega)⟩
    · cases ht
  | listed first targets =>
    rw [keepsForeign, List.all_eq_true] at h
    rw [replacement?] at ht
    split at ht
    · exact List.any_eq_true.mp (h target (List.mem_of_getElem? ht))
    · cases ht

theorem exists_foreign_of_find {table : List Substitution} (h : table.all keepsForeign = true)
    {c : Char} (hc : 0x80 ≤ c.toNat) {out : List Char} (hout : find? table c = some out) :
    ∃ d ∈ out, isForeign d.toNat = true := by
  obtain ⟨target, htarget, rfl⟩ := Option.map_eq_some_iff.mp hout
  obtain ⟨s, hs, hreplacement⟩ := List.exists_of_findSome?_eq_some htarget
  obtain ⟨m, hm, hforeign⟩ :=
    exists_foreign_of_replacement (List.all_eq_true.mp h s hs) hc hreplacement
  exact ⟨Char.ofNat m, List.mem_map_of_mem hm, isForeign_ofNat hforeign⟩

end Substitution

set_option maxRecDepth 20000 in
theorem lowercaseRows_keepForeign : lowercaseRows.all Substitution.keepsForeign = true := by
  refine of_chars (p := fun cs => ((cs.splitOn '\n').filterMap fun line =>
    Substitution.ofWords (words line)).all Substitution.keepsForeign = true) ?chars ?listed ?checked
  case listed =>
    delta lowercaseTable
    with_reducible exact rfl
  case checked => decide +kernel

theorem exists_foreign_of_lowercaseChar {c : Char} (h : 0x80 ≤ c.toNat) :
    ∃ d ∈ lowercaseChar c, isForeign d.toNat = true := by
  rw [lowercaseChar, if_neg (by omega)]
  cases hfind : Substitution.find? lowercaseRows c with
  | none => exact ⟨c, List.mem_singleton.mpr rfl, isForeign_of_le (by omega)⟩
  | some out => exact Substitution.exists_foreign_of_find lowercaseRows_keepForeign h hfind

theorem lowercaseChars_of_ascii {cs : List Char} (h : ∀ c ∈ cs, c.toNat < 0x80) :
    lowercaseChars cs = cs.map Char.toLower := by
  rw [← List.flatMap_singleton' (cs.map Char.toLower), List.flatMap_map]
  exact List.flatMap_congr fun c hc => if_pos (h c hc)

theorem toLower_of_le {c : Char} (h : 0x80 ≤ c.toNat) : c.toLower = c := by
  refine dif_neg fun hcapital => ?_
  have hle : c.toNat ≤ 0x5A := hcapital.2
  omega

/-- Lowering ASCII letters alone makes no such word from a text that is not ASCII. -/
theorem ascii_of_map_toLower {cs word : List Char} (h : cs.map Char.toLower = word)
    (hword : ∀ c ∈ word, isForeign c.toNat = false) : ∀ c ∈ cs, c.toNat < 0x80 := by
  intro c hc
  by_contra hle
  have hmem : c.toLower ∈ word := h ▸ List.mem_map_of_mem hc
  rw [toLower_of_le (Nat.not_lt.mp hle)] at hmem
  have hforeign := isForeign_of_le (show 0x7F ≤ c.toNat by omega)
  rw [hword c hmem] at hforeign
  cases hforeign

theorem ascii_of_lowercaseChars {cs word : List Char} (h : lowercaseChars cs = word)
    (hword : ∀ c ∈ word, isForeign c.toNat = false) : ∀ c ∈ cs, c.toNat < 0x80 := by
  intro c hc
  by_contra hle
  obtain ⟨d, hd, hforeign⟩ := exists_foreign_of_lowercaseChar (Nat.not_lt.mp hle)
  have hmem : d ∈ word := h ▸ List.mem_flatMap.mpr ⟨c, hc, hd⟩
  rw [hword d hmem] at hforeign
  cases hforeign

/-- A text is lowered to such a word exactly if it is the word up to the case of ASCII letters. -/
theorem lowercase_eq_iff {s word : String} (hword : ∀ c ∈ word.toList, isForeign c.toNat = false) :
    lowercase s = word ↔ s.toList.map Char.toLower = word.toList := by
  rw [← String.toList_inj, lowercase, String.toList_ofList]
  constructor
  · intro h
    rw [← lowercaseChars_of_ascii (ascii_of_lowercaseChars h hword)]
    exact h
  · intro h
    rw [lowercaseChars_of_ascii (ascii_of_map_toLower h hword)]
    exact h

end Permalink.Unicode
