import Permalink.Proofs.Text.Size
import Permalink.Proofs.Url.Parse
import Permalink.Proofs.Url.Path

set_option autoImplicit false

namespace Permalink.Url
open Text

/-- A value that a query gives back, as it is written, from the end of a link. -/
structure Form.IsLiteral (cs : List Char) : Prop where
  unmarked : ∀ c ∈ cs, c ∉ ['&', '#', '+', '\t', '\n', '\r']
  unescaped : Form.Unescaped cs
  last : ∀ c ∈ cs.getLast?, 0x20 < c.toNat

instance (cs : List Char) : Decidable (Form.IsLiteral cs) :=
  decidable_of_iff (cs.all (fun c => c ∉ ['&', '#', '+', '\t', '\n', '\r']) = true ∧
      Form.Unescaped cs ∧ cs.getLast?.all (fun c => 0x20 < c.toNat) = true) <| by
    simp only [List.all_eq_true, Option.all_eq_true, decide_eq_true_eq]
    exact ⟨fun h => ⟨h.1, h.2.1, h.2.2⟩, fun h => ⟨h.unmarked, h.unescaped, h.last⟩⟩

theorem before_cleanseEnd_sublist (mark : Char) (cs : List Char) :
    (before mark (cleanseEnd cs)).Sublist cs :=
  (before_sublist mark _).trans (cleanseEnd_sublist cs)

theorem before_eq_self_of_not_mem {mark : Char} {cs : List Char} (h : mark ∉ cs) :
    before mark cs = cs :=
  before_eq_of_after_eq_none (after_eq_none_iff.mpr h)

theorem before_cleanseEnd_eq_self_iff {mark : Char} {cs : List Char} :
    before mark (cleanseEnd cs) = cs ↔ cleanseEnd cs = cs ∧ mark ∉ cs := by
  constructor
  · intro h
    have hback : cs.Sublist (cleanseEnd cs) := by
      have hsub := before_sublist mark (cleanseEnd cs)
      rwa [h] at hsub
    have hend := (cleanseEnd_sublist cs).antisymm hback
    refine ⟨hend, ?_⟩
    rw [hend] at h
    rw [← h]
    exact not_mem_before mark cs
  · rintro ⟨hend, hmem⟩
    rw [hend, before_eq_self_of_not_mem hmem]

theorem isKept_iff (c : Char) : isKept c = true ↔ c ∉ ['\t', '\n', '\r'] := by
  simp [isKept, and_assoc]

theorem isEdge_eq_false_iff (c : Char) : isEdge c = false ↔ 0x20 < c.toNat := by
  simp [isEdge]

theorem Form.isLiteral_iff {cs : List Char} : Form.IsLiteral cs ↔
    before '#' (cleanseEnd cs) = cs ∧ '&' ∉ cs ∧ Form.decodeText cs = cs := by
  rw [before_cleanseEnd_eq_self_iff, cleanseEnd_eq_self_iff, Form.decodeText_eq_self_iff]
  simp only [isKept_iff, isEdge_eq_false_iff]
  constructor
  · rintro ⟨hmarks, hescape, hlast⟩
    have hnot {mark : Char} (h : mark ∈ ['&', '#', '+', '\t', '\n', '\r']) : mark ∉ cs :=
      fun hmem => hmarks mark hmem h
    refine ⟨⟨⟨hlast, fun c hc => ?_⟩, hnot (by simp)⟩, hnot (by simp), hnot (by simp), hescape⟩
    have hc := hmarks c hc
    simp only [List.mem_cons, not_or] at hc ⊢
    exact hc.2.2.2
  · rintro ⟨⟨⟨hlast, hkept⟩, hsharp⟩, hamp, hplus, hescape⟩
    refine ⟨fun c hc => ?_, hescape, hlast⟩
    have hk := hkept c hc
    simp only [List.mem_cons, not_or] at hk ⊢
    refine ⟨?_, ?_, ?_, hk⟩
    · rintro rfl
      exact hamp hc
    · rintro rfl
      exact hsharp hc
    · rintro rfl
      exact hplus hc

/-- The value assigned to a parameter at the end of a link is read as it is written, or not. -/
theorem Form.value_assign_cleanseEnd_iff {name v : List Char} (hname : Form.decodeText name = name)
    (heq : '=' ∉ name) (hamp : '&' ∉ name) (hv : v ≠ []) :
    Form.value? name (name ++ '=' :: before '#' (cleanseEnd v)) = some v ↔ Form.IsLiteral v := by
  rw [Form.value_assign_eq_iff hname heq hamp (before_cleanseEnd_sublist '#' v) hv,
    Form.isLiteral_iff]

theorem Path.IsLiteral.not_special {cs : List Char} (h : Path.IsLiteral cs) {c : Char}
    (hc : c ∈ cs) : isEdge c = false ∧ isKept c = true ∧ c ≠ '#' ∧ c ≠ '?' := by
  have hp := h.plain c hc
  exact Form.forall_ascii (p := fun c => Percent.pathSet c = false →
    isEdge c = false ∧ isKept c = true ∧ c ≠ '#' ∧ c ≠ '?') (by decide +kernel) hp.1 hp.2.1

/-- A literal segment at the end of a link is neither cut nor taken for a query. -/
theorem Path.IsLiteral.cleanseEnd_eq {cs : List Char} (h : Path.IsLiteral cs) :
    cleanseEnd cs = cs ∧ '#' ∉ cs ∧ '?' ∉ cs := by
  refine ⟨cleanseEnd_eq_self_iff.mpr ⟨fun c hc => ?_, fun c hc => (h.not_special hc).2.1⟩, ?_, ?_⟩
  · exact (h.not_special (List.mem_of_getLast? hc)).1
  · exact fun hmem => (h.not_special hmem).2.2.1 rfl
  · exact fun hmem => (h.not_special hmem).2.2.2 rfl

theorem Path.IsLiteral.isFront {cs : List Char} (h : Path.IsLiteral cs) :
    IsFront (cs ++ ['/']) := by
  refine ⟨?_, ?_, List.filter_eq_self.mpr fun c hc => ?_⟩
  · cases cs with
    | nil => rfl
    | cons c cs =>
      have hc := (h.not_special (List.mem_cons_self (a := c) (l := cs))).1
      simp [hc]
  · rw [dropEndWhile_append_singleton]
    rfl
  · rcases List.mem_append.mp hc with hc | hc
    · exact (h.not_special hc).2.1
    · rw [List.mem_singleton.mp hc]
      rfl

/-- Spaces and controls apart, the text does not end in white space. -/
def EndsPlainly (cs : List Char) : Prop :=
  ∀ c ∈ (dropEndWhile isEdge cs).getLast?, isBlank c = false

instance (cs : List Char) : Decidable (EndsPlainly cs) :=
  decidable_of_iff ((dropEndWhile isEdge cs).getLast?.all (!isBlank ·) = true) <| by
    simp [EndsPlainly, Option.all_eq_true]

theorem Scheme.toNat_lt_of_isNameChar {c : Char} (h : Scheme.isNameChar c = true) :
    c.toNat < 128 := by
  simp only [Scheme.isNameChar, Bool.or_eq_true, beq_iff_eq] at h
  rcases h with ((h | rfl) | rfl) | rfl
  · exact Form.toNat_lt_of_isAlphanum h
  all_goals decide

theorem Scheme.head_of_read {cs : List Char} {found : Scheme × List Char}
    (h : Scheme.read? cs = some found) : ∀ c ∈ cs.head?, Scheme.isNameChar c = true := by
  intro c hc
  obtain ⟨rest, rfl⟩ := List.head?_eq_some_iff.mp hc
  by_contra hname
  rw [Scheme.read?, List.takeWhile_cons_of_neg hname] at h
  cases h

/-- The first character that a URL keeps is no white space. -/
theorem head_dropWhile_of_read {cs : List Char} {found : Scheme × List Char}
    (h : Scheme.read? (cleanse cs) = some found) :
    ∀ c ∈ (cs.dropWhile isEdge).head?, isBlank c = false := by
  intro c hc
  obtain ⟨rest, hrest⟩ := List.head?_eq_some_iff.mp hc
  have hedge : isEdge c = false := by
    have hnot := List.head?_dropWhile_not isEdge cs
    rw [hrest] at hnot
    simpa using hnot
  have hkept : isKept c = true := by
    apply (isKept_iff c).mpr
    intro hmem
    have hall : ['\t', '\n', '\r'].all isEdge = true := by decide
    rw [List.all_eq_true.mp hall c hmem] at hedge
    cases hedge
  have hhead : c ∈ (cleanse cs).head? := by
    have hsingle : dropEndWhile isEdge [c] = [c] := by simp [dropEndWhile, hedge]
    rw [cleanse_eq, hrest, ← List.singleton_append, dropEndWhile_append hsingle]
    simp [hkept]
  have hascii := Scheme.toNat_lt_of_isNameChar (Scheme.head_of_read h c hhead)
  rw [isEdge_eq_false_iff] at hedge
  exact Form.forall_ascii (p := fun c => 0x20 < c.toNat → isBlank c = false) (by decide +kernel)
    hascii hedge

theorem cleanse_trimChars {cs : List Char}
    (hfront : ∀ c ∈ (cs.dropWhile isEdge).head?, isBlank c = false) (hend : EndsPlainly cs) :
    cleanse (trimChars cs) = cleanse cs := by
  have hlast : ∀ c ∈ (dropEndWhile isEdge (cs.dropWhile isEdge)).getLast?, isBlank c = false := by
    rw [← dropWhile_dropEndWhile]
    intro c hc
    obtain ⟨front, hfront⟩ := List.dropWhile_suffix (l := dropEndWhile isEdge cs) isEdge
    apply hend c
    rw [← hfront, List.getLast?_append, Option.mem_def.mp hc]
    rfl
  have hboth : dropEndWhile isEdge ((trimChars cs).dropWhile isEdge) =
      dropEndWhile isEdge (cs.dropWhile isEdge) :=
    calc dropEndWhile isEdge ((trimChars cs).dropWhile isEdge)
      _ = dropEndWhile isEdge (dropEndWhile isBlank ((cs.dropWhile isBlank).dropWhile isEdge)) :=
        congrArg _ (dropWhile_dropEndWhile isBlank isEdge _)
      _ = dropEndWhile isEdge (dropEndWhile isBlank (cs.dropWhile isEdge)) := by
        rw [dropWhile_dropWhile_of_head hfront]
      _ = dropEndWhile isEdge (cs.dropWhile isEdge) := dropEndWhile_dropEndWhile_of_last hlast
  rw [cleanse_eq, hboth, cleanse_eq]

theorem parse_trim {link : String} {url : Url} (h : parse? link = some url)
    (hend : EndsPlainly link.toList) : parse? (trim link) = some url := by
  obtain ⟨found, hread, _⟩ := Option.bind_eq_some_iff.mp h
  rw [parse?, toList_trim, ofChars?, cleanse_trimChars (head_dropWhile_of_read hread) hend]
  exact h

end Permalink.Url
