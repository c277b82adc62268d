import Mathlib.Data.List.DropRight
import Permalink.Text.Basic

set_option autoImplicit false

namespace Permalink.Text

def size : List Char → Nat
  | [] => 0
  | c :: cs => c.utf8Size + size cs

@[simp] theorem size_nil : size [] = 0 := rfl

@[simp] theorem size_cons (c : Char) (cs : List Char) :
    size (c :: cs) = c.utf8Size + size cs := rfl

@[simp] theorem size_append (xs ys : List Char) : size (xs ++ ys) = size xs + size ys := by
  induction xs with
  | nil => simp
  | cons c xs ih =>
    rw [List.cons_append, size_cons, size_cons, ih]
    omega

theorem utf8ByteSize_ofList (cs : List Char) : (String.ofList cs).utf8ByteSize = size cs := by
  induction cs with
  | nil => rfl
  | cons c cs ih =>
    have h : String.ofList (c :: cs) = String.singleton c ++ String.ofList cs := by
      rw [String.singleton_eq_ofList, ← String.ofList_append]
      rfl
    rw [h, String.utf8ByteSize_append, String.utf8ByteSize_singleton, ih, size_cons]

theorem size_toList (s : String) : size s.toList = s.utf8ByteSize := by
  rw [← utf8ByteSize_ofList, String.ofList_toList]

theorem size_le_of_sublist {xs ys : List Char} (h : xs.Sublist ys) : size xs ≤ size ys := by
  induction h with
  | slnil => exact le_refl 0
  | cons c _ ih =>
    rw [size_cons]
    omega
  | cons_cons c _ ih =>
    rw [size_cons, size_cons]
    omega

theorem eq_of_sublist_of_size_le {xs ys : List Char} (h : xs.Sublist ys) (hs : size ys ≤ size xs) :
    xs = ys := by
  induction h with
  | slnil => rfl
  | @cons xs ys c h _ =>
    have hc := c.utf8Size_pos
    have hle := size_le_of_sublist h
    rw [size_cons] at hs
    omega
  | cons_cons c _ ih =>
    rw [size_cons, size_cons] at hs
    rw [ih (by omega)]

theorem before_sublist (mark : Char) (cs : List Char) : (before mark cs).Sublist cs :=
  List.takeWhile_sublist _

theorem after_suffix {mark : Char} {cs rest : List Char} (h : after? mark cs = some rest) :
    mark :: rest <:+ cs :=
  ⟨before mark cs, before_append_after h⟩

theorem not_mem_before (mark : Char) (cs : List Char) : mark ∉ before mark cs := by
  intro h
  simpa using List.mem_takeWhile_imp h

theorem dropEndWhile_isPrefix {α : Type} (p : α → Bool) (l : List α) : dropEndWhile p l <+: l :=
  List.rdropWhile_prefix p l

theorem dropEndWhile_idem {α : Type} (p : α → Bool) (l : List α) :
    dropEndWhile p (dropEndWhile p l) = dropEndWhile p l :=
  List.rdropWhile_idempotent p l

theorem trimChars_sublist (cs : List Char) : (trimChars cs).Sublist cs :=
  (dropEndWhile_isPrefix isBlank _).sublist.trans (List.dropWhile_sublist isBlank)

theorem dropWhile_dropEndWhile {α : Type} (p q : α → Bool) (l : List α) :
    (dropEndWhile p l).dropWhile q = dropEndWhile p (l.dropWhile q) := by
  induction l using List.reverseRecOn with
  | nil => rfl
  | append_singleton l a ih =>
    rw [dropEndWhile_append_singleton, List.dropWhile_append]
    by_cases ha : p a = true
    · rw [if_pos ha, ih]
      split
      · rename_i hempty
        rw [List.isEmpty_iff.mp hempty]
        by_cases hq : q a = true <;> simp [dropEndWhile, ha, hq]
      · rw [dropEndWhile_append_singleton, if_pos ha]
    · rw [if_neg ha, List.dropWhile_append]
      split
      · by_cases hq : q a = true <;> simp [dropEndWhile, ha, hq]
      · rw [dropEndWhile_append_singleton, if_neg ha]

theorem trimEndChars_trimChars (cs : List Char) : trimEndChars (trimChars cs) = trimChars cs :=
  dropEndWhile_idem isBlank _

theorem trimChars_idem (cs : List Char) : trimChars (trimChars cs) = trimChars cs := by
  have h : (trimChars cs).dropWhile isBlank = trimChars cs := by
    change (dropEndWhile isBlank (cs.dropWhile isBlank)).dropWhile isBlank = _
    rw [dropWhile_dropEndWhile, List.dropWhile_idempotent]
    rfl
  rw [trimChars, h]
  exact trimEndChars_trimChars cs

@[simp] theorem toList_trim (s : String) : (trim s).toList = trimChars s.toList := by
  simp [trim]

theorem trimChars_eq_nil_iff {cs : List Char} :
    trimChars cs = [] ↔ ∀ c ∈ cs, isBlank c = true :=
  calc trimChars cs = []
    _ ↔ ∀ c ∈ cs.dropWhile isBlank, isBlank c = true := List.rdropWhile_eq_nil_iff
    _ ↔ (cs.dropWhile isBlank).dropWhile isBlank = [] := List.dropWhile_eq_nil_iff.symm
    _ ↔ cs.dropWhile isBlank = [] := by rw [List.dropWhile_idempotent]
    _ ↔ ∀ c ∈ cs, isBlank c = true := List.dropWhile_eq_nil_iff

theorem trim_eq_empty_iff {s : String} : trim s = "" ↔ ∀ c ∈ s.toList, isBlank c = true := by
  rw [← String.toList_inj, toList_trim, String.toList_empty, trimChars_eq_nil_iff]

theorem trim_trim (s : String) : trim (trim s) = trim s := by
  unfold trim
  rw [String.toList_ofList, trimChars_idem]

theorem trimEnd_of_trim {s : String} (h : trim s = s) : trimEnd s = s := by
  rw [← h]
  unfold trim trimEnd
  rw [String.toList_ofList, trimEndChars_trimChars]

theorem utf8ByteSize_trim_le (s : String) : (trim s).utf8ByteSize ≤ s.utf8ByteSize := by
  rw [← size_toList, ← size_toList, toList_trim]
  exact size_le_of_sublist (trimChars_sublist _)

theorem utf8ByteSize_trimEnd_le (s : String) : (trimEnd s).utf8ByteSize ≤ s.utf8ByteSize := by
  rw [← size_toList s, trimEnd, utf8ByteSize_ofList]
  exact size_le_of_sublist (dropEndWhile_isPrefix isBlank _).sublist

section Ends
variable {α : Type} {p q : α → Bool}

/-- What the second drop stops at stops the first one as well. -/
theorem dropWhile_dropWhile_of_head {l : List α} (h : ∀ a ∈ (l.dropWhile q).head?, p a = false) :
    (l.dropWhile p).dropWhile q = l.dropWhile q := by
  induction l with
  | nil => rfl
  | cons a l ih =>
    by_cases hp : p a = true
    · -- A dropped front is dropped again, or it would be what the second drop stops at.
      have hq : q a = true := by
        by_contra hq
        have hfront := h a (by simp [hq])
        rw [hp] at hfront
        cases hfront
      rw [List.dropWhile_cons_of_pos hp, List.dropWhile_cons_of_pos hq]
      rw [List.dropWhile_cons_of_pos hq] at h
      exact ih h
    · rw [List.dropWhile_cons_of_neg hp]

theorem dropEndWhile_dropEndWhile_of_last {l : List α}
    (h : ∀ a ∈ (dropEndWhile q l).getLast?, p a = false) :
    dropEndWhile q (dropEndWhile p l) = dropEndWhile q l := by
  unfold dropEndWhile at h ⊢
  rw [List.getLast?_reverse] at h
  rw [List.reverse_reverse, dropWhile_dropWhile_of_head h]

theorem infix_dropWhile {part l : List α} (hne : part ≠ []) (hpart : ∀ a ∈ part, p a = false)
    (h : part <:+: l) : part <:+: l.dropWhile p := by
  induction l with
  | nil => exact h
  | cons a l ih =>
    by_cases ha : p a = true
    · rw [List.dropWhile_cons_of_pos ha]
      apply ih
      refine (List.infix_cons_iff.mp h).resolve_left fun hfront => ?_
      obtain ⟨first, rest, rfl⟩ := List.exists_cons_of_ne_nil hne
      obtain rfl := (List.cons_prefix_cons.mp hfront).1
      rw [hpart first (by simp)] at ha
      cases ha
    · rw [List.dropWhile_cons_of_neg ha]
      exact h

theorem infix_dropEndWhile {part l : List α} (hne : part ≠ []) (hpart : ∀ a ∈ part, p a = false)
    (h : part <:+: l) : part <:+: dropEndWhile p l := by
  rw [← List.reverse_infix, dropEndWhile, List.reverse_reverse]
  apply infix_dropWhile
  · simpa using hne
  · simpa using hpart
  · exact List.reverse_infix.mpr h

end Ends

theorem infix_trimChars {part cs : List Char} (hne : part ≠ [])
    (hpart : ∀ c ∈ part, isBlank c = false) (h : part <:+: cs) : part <:+: trimChars cs := by
  apply infix_dropEndWhile hne hpart
  exact infix_dropWhile hne hpart h

end Permalink.Text
