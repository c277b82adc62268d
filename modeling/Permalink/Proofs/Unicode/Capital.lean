import Mathlib.Data.String.Basic
import Permalink.Proofs.Text.Lenient
import Permalink.Unicode.Composition
import Permalink.Unicode.Table

set_option autoImplicit false

namespace Permalink.Unicode

def avoidsCapitals (n : Nat) : Bool := n < 0x41 || 0x5A < n

theorem isUpper_iff (c : Char) : c.isUpper = true ↔ 0x41 ≤ c.toNat ∧ c.toNat ≤ 0x5A := by
  change decide _ = true ↔ _
  rw [decide_eq_true_eq]
  exact Iff.rfl

theorem avoidsCapitals_toNat {c : Char} : avoidsCapitals c.toNat = true ↔ c.isUpper = false := by
  rw [Bool.eq_false_iff, ne_eq, isUpper_iff, avoidsCapitals, Bool.or_eq_true, decide_eq_true_eq,
    decide_eq_true_eq]
  omega

theorem isUpper_ofNat {n : Nat} (h : avoidsCapitals n = true) : (Char.ofNat n).isUpper = false := by
  by_cases hv : n.isValidChar
  · rw [← avoidsCapitals_toNat, Text.Utf8.toNat_char_ofNat hv]
    exact h
  · rw [Char.ofNat, dif_neg hv]
    decide

/-- A property of the characters of a literal, once they are listed. -/
theorem of_chars {p : List Char → Prop} {s : String} (cs : List Char) (hs : s = String.ofList cs)
    (h : p cs) : p s.toList := by
  rw [hs, String.toList_ofList]
  exact h

namespace Substitution

def isPlain : Substitution → Bool
  | .moved first last _ target => 0x5A < target || target + (last - first) < 0x41
  | .listed _ targets => targets.all fun target => target.all avoidsCapitals

theorem IsPlain.replacement {s : Substitution} (h : s.isPlain = true) {n : Nat} {target : List Nat}
    (ht : s.replacement? n = some target) : ∀ m ∈ target, avoidsCapitals m = true := by
  cases s with
  | moved first last step start =>
    rw [isPlain, Bool.or_eq_true, decide_eq_true_eq, decide_eq_true_eq] at h
    rw [replacement?] at ht
    split at ht
    · rename_i hin
      intro m hm
      rw [← Option.some.inj ht, List.mem_singleton] at hm
      rw [avoidsCapitals, Bool.or_eq_true, decide_eq_true_eq, decide_eq_true_eq]
      omega
    · cases ht
  | listed first targets =>
    rw [isPlain, List.all_eq_true] at h
    rw [replacement?] at ht
    split at ht
    · exact List.all_eq_true.mp (h target (List.mem_of_getElem? ht))
    · cases ht

theorem isUpper_of_find {table : List Substitution} (h : table.all isPlain = true) {c : Char}
    {out : List Char} (hout : find? table c = some out) : ∀ d ∈ out, d.isUpper = false := by
  obtain ⟨target, htarget, rfl⟩ := Option.map_eq_some_iff.mp hout
  obtain ⟨s, hs, hreplacement⟩ := List.exists_of_findSome?_eq_some htarget
  intro d hd
  obtain ⟨m, hm, rfl⟩ := List.mem_map.mp hd
  exact isUpper_ofNat (IsPlain.replacement (List.all_eq_true.mp h s hs) hreplacement m hm)

end Substitution

def Composition.isPlain (pair : Composition) : Bool :=
  avoidsCapitals pair.base && avoidsCapitals pair.mark && avoidsCapitals pair.composite

set_option maxRecDepth 20000 in
theorem compositions_isPlain : compositions.all Composition.isPlain = true := by
  refine of_chars (p := fun cs => ((cs.splitOn '\n').flatMap Composition.listOfLine).all
    Composition.isPlain = true) ?chars ?listed ?checked
  case listed =>
    delta compositionTable
    with_reducible exact rfl
  case checked => decide +kernel

theorem Composition.isPlain_of_find {table : List Composition}
    (htable : table.all isPlain = true) {p : Composition → Bool} {pair : Composition}
    (h : table.find? p = some pair) : avoidsCapitals pair.base = true ∧
      avoidsCapitals pair.mark = true ∧ avoidsCapitals pair.composite = true := by
  have hplain := List.all_eq_true.mp htable pair (List.mem_of_find?_eq_some h)
  rw [Composition.isPlain, Bool.and_eq_true, Bool.and_eq_true] at hplain
  exact ⟨hplain.1.1, hplain.1.2, hplain.2⟩

theorem avoidsCapitals_of_lt {n : Nat} (h : 0x5A < n) : avoidsCapitals n = true := by
  simp [avoidsCapitals, h]

theorem avoidsCapitals_hangul {n m : Nat} {ns : List Nat} (h : Hangul.decompose? n = some ns)
    (hm : m ∈ ns) : avoidsCapitals m = true := by
  rw [Hangul.decompose?] at h
  split at h
  · have hle : 0x1100 ≤ m := by
      rw [← Option.some.inj h] at hm
      split at hm
      · simp only [List.mem_cons, List.not_mem_nil, or_false] at hm
        omega
      · simp only [List.mem_cons, List.not_mem_nil, or_false] at hm
        omega
    exact avoidsCapitals_of_lt (by omega)
  · cases h

theorem avoidsCapitals_decomposeFrom {table : List Composition}
    (htable : table.all Composition.isPlain = true) (depth : Nat) {n : Nat}
    (h : avoidsCapitals n = true) :
    ∀ m ∈ decomposeFrom table depth n, avoidsCapitals m = true := by
  induction depth generalizing n with
  | zero => simpa [decomposeFrom] using h
  | succ depth ih =>
    intro m hm
    rw [decomposeFrom] at hm
    split at hm
    · rename_i pair hpair
      obtain ⟨hbase, hmark, _⟩ := Composition.isPlain_of_find htable hpair
      rcases List.mem_append.mp hm with hm | hm
      · exact ih hbase m hm
      · rw [List.mem_singleton.mp hm]
        exact hmark
    · cases hsyllable : Hangul.decompose? n with
      | none => simp_all
      | some ns =>
        rw [hsyllable] at hm
        exact avoidsCapitals_hangul hsyllable hm

theorem isUpper_decompose {c : Char} (h : c.isUpper = false) :
    ∀ d ∈ decompose c, d.isUpper = false := by
  intro d hd
  rw [decompose] at hd
  split at hd
  · rw [List.mem_singleton.mp hd]
    exact h
  · obtain ⟨m, hm, rfl⟩ := List.mem_map.mp hd
    exact isUpper_ofNat (avoidsCapitals_decomposeFrom compositions_isPlain 4
      (avoidsCapitals_toNat.mpr h) m hm)

theorem le_of_hangul_compose {a b n : Nat} (h : Hangul.compose? a b = some n) : 0xAC00 ≤ n := by
  rw [Hangul.compose?] at h
  split at h
  · rw [← Option.some.inj h]
    exact Nat.le_add_right _ _
  · split at h
    · have := Option.some.inj h
      omega
    · cases h

theorem isUpper_compose {a b c : Char} (h : compose? a b = some c) : c.isUpper = false := by
  rw [compose?] at h
  split at h
  · cases h
  · obtain ⟨n, hn, rfl⟩ := Option.map_eq_some_iff.mp h
    refine isUpper_ofNat ?_
    rcases Option.or_eq_some_iff.mp hn with hpair | ⟨_, hsyllable⟩
    · obtain ⟨pair, hfind, rfl⟩ := Option.map_eq_some_iff.mp hpair
      exact (Composition.isPlain_of_find compositions_isPlain hfind).2.2
    · have hle := le_of_hangul_compose hsyllable
      exact avoidsCapitals_of_lt (by omega)

theorem mem_insertMark {c d : Char} {reversed : List Char} :
    d ∈ insertMark c reversed ↔ d = c ∨ d ∈ reversed := by
  induction reversed with
  | nil => simp [insertMark]
  | cons e reversed ih =>
    rw [insertMark]
    split
    · simp only [List.mem_cons, ih]
      exact or_left_comm
    · simp

theorem mem_reorder {d : Char} {cs : List Char} : d ∈ reorder cs ↔ d ∈ cs := by
  have hfold (reversed : List Char) :
      d ∈ cs.foldl (fun reversed c => insertMark c reversed) reversed ↔
        d ∈ cs ∨ d ∈ reversed := by
    induction cs generalizing reversed with
    | nil => simp
    | cons c cs ih =>
      rw [List.foldl_cons, ih, mem_insertMark, List.mem_cons, or_left_comm, or_assoc]
  rw [reorder, List.mem_reverse, hfold]
  simp

/-- A character joins the starter, or not, and then it stands after it. -/
theorem composeFrom_cons (starter : Char) (skipped : List Char) (c : Char) (rest : List Char) :
    ∃ joined : Option Char, (∀ d, joined = some d → compose? starter c = some d) ∧
      composeFrom starter skipped (c :: rest) = match joined with
        | some d => composeFrom d skipped rest
        | none =>
          if combiningClass c = 0 then starter :: skipped.reverse ++ composeFrom c [] rest
          else composeFrom starter (c :: skipped) rest := by
  refine ⟨_, fun d hd => ?_, composeFrom.eq_def starter skipped (c :: rest)⟩
  exact (Option.ite_none_left_eq_some.mp hd).2

/-- What composing makes of characters is one of them or a composite. -/
theorem forall_mem_composeFrom {P : Char → Prop} (hcompose : ∀ a b c, compose? a b = some c → P c)
    (rest : List Char) {starter : Char} {skipped : List Char} (hstarter : P starter)
    (hskipped : ∀ d ∈ skipped, P d) (hrest : ∀ d ∈ rest, P d) :
    ∀ d ∈ composeFrom starter skipped rest, P d := by
  induction rest generalizing starter skipped with
  | nil => simpa [composeFrom] using ⟨hstarter, hskipped⟩
  | cons c rest ih =>
    have hc := hrest c List.mem_cons_self
    have hrest : ∀ d ∈ rest, P d := fun d hd => hrest d (List.mem_cons_of_mem c hd)
    obtain ⟨joined, hjoined, heq⟩ := composeFrom_cons starter skipped c rest
    rw [heq]
    cases joined with
    | some composite => exact ih (hcompose _ _ _ (hjoined composite rfl)) hskipped hrest
    | none =>
      simp only
      split
      · intro d hd
        rcases List.mem_append.mp hd with hd | hd
        · rcases List.mem_cons.mp hd with rfl | hd
          · exact hstarter
          · exact hskipped d (List.mem_reverse.mp hd)
        · exact ih hc (by simp) hrest d hd
      · refine ih hstarter (fun d hd => ?_) hrest
        rcases List.mem_cons.mp hd with rfl | hd
        · exact hc
        · exact hskipped d hd

theorem forall_mem_composeAll {P : Char → Prop} (hcompose : ∀ a b c, compose? a b = some c → P c)
    {cs : List Char} (h : ∀ d ∈ cs, P d) : ∀ d ∈ composeAll cs, P d := by
  induction cs with
  | nil => exact h
  | cons c rest ih =>
    have hc := h c List.mem_cons_self
    have hrest : ∀ d ∈ rest, P d := fun d hd => h d (List.mem_cons_of_mem c hd)
    rw [composeAll]
    split
    · exact forall_mem_composeFrom hcompose rest hc (by simp) hrest
    · intro d hd
      rcases List.mem_cons.mp hd with rfl | hd
      · exact hc
      · exact ih hrest d hd

theorem isUpper_normalize {cs : List Char} (h : ∀ c ∈ cs, c.isUpper = false) :
    ∀ d ∈ normalize cs, d.isUpper = false := by
  refine forall_mem_composeAll (fun _ _ _ => isUpper_compose) fun d hd => ?_
  obtain ⟨c, hc, hd⟩ := List.mem_flatMap.mp (mem_reorder.mp hd)
  exact isUpper_decompose (h c hc) d hd

end Permalink.Unicode
