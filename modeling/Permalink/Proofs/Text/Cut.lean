import Mathlib.Data.List.Basic
import Permalink.Text.Basic

set_option autoImplicit false

namespace Permalink.Text

theorem before_append_of_not_mem {mark : Char} {xs : List Char} (h : mark ∉ xs) (ys : List Char) :
    before mark (xs ++ ys) = xs ++ before mark ys := by
  unfold before
  rw [List.takeWhile_append_of_pos]
  intro c hc
  rw [decide_eq_true_eq]
  rintro rfl
  exact h hc

theorem before_append_cons (mark : Char) (xs ys : List Char) :
    before mark (xs ++ mark :: ys) = before mark xs := by
  induction xs with
  | nil => simp [before]
  | cons c xs ih =>
    unfold before at ih ⊢
    rw [List.cons_append, List.takeWhile_cons, List.takeWhile_cons, ih]

theorem after_append_of_not_mem {mark : Char} {xs : List Char} (h : mark ∉ xs) (ys : List Char) :
    after? mark (xs ++ ys) = after? mark ys := by
  induction xs with
  | nil => rfl
  | cons c xs ih =>
    rw [List.mem_cons, not_or] at h
    rw [List.cons_append, after?, if_neg (Ne.symm h.1), ih h.2]

/-- A part behind its mark, or nothing. -/
def partText (mark : Char) (part : Option (List Char)) : List Char :=
  (part.map (mark :: ·)).getD []

theorem mem_partText {mark c : Char} {part : Option (List Char)} (h : c ∈ partText mark part) :
    c = mark ∨ ∃ cs ∈ part, c ∈ cs := by
  cases part with
  | none => cases h
  | some cs => simpa [partText] using h

theorem cut_append_partText {mark : Char} {xs : List Char} (h : mark ∉ xs)
    (part : Option (List Char)) : before mark (xs ++ partText mark part) = xs ∧
      after? mark (xs ++ partText mark part) = part := by
  rw [before_append_of_not_mem h, after_append_of_not_mem h]
  cases part <;> simp [partText, before, after?]

theorem cutLast_append {mark : Char} {ys : List Char} (h : mark ∉ ys) (xs : List Char) :
    cutLast? mark (xs ++ mark :: ys) = some (xs, ys) := by
  have hmem : mark ∉ ys.reverse := by simpa using h
  have hreverse : (xs ++ mark :: ys).reverse = ys.reverse ++ mark :: xs.reverse := by simp
  rw [cutLast?, hreverse, after_append_of_not_mem hmem, before_append_of_not_mem hmem]
  simp [after?, before]

theorem cutLast_of_not_mem {mark : Char} {cs : List Char} (h : mark ∉ cs) :
    cutLast? mark cs = none := by
  have hmem : mark ∉ cs.reverse := by simpa using h
  rw [cutLast?, after_eq_none_iff.mpr hmem]
  rfl

theorem splitOn_append_of_not_mem {mark : Char} {xs : List Char} (h : mark ∉ xs) (ys : List Char) :
    (xs ++ ys).splitOn mark = (ys.splitOn mark).modifyHead (xs ++ ·) := by
  induction xs with
  | nil => cases hs : ys.splitOn mark <;> simp [hs]
  | cons c xs ih =>
    rw [List.mem_cons, not_or] at h
    have hc : (c == mark) = false := by simpa using Ne.symm h.1
    rw [List.cons_append, List.splitOn_cons_eq_if_modifyHead, ih h.2, hc]
    cases ys.splitOn mark <;> simp

theorem sublist_of_mem_splitOnP {p : Char → Bool} {piece cs : List Char}
    (h : piece ∈ cs.splitOnP p) : piece.Sublist cs := by
  induction cs generalizing piece with
  | nil => simp_all
  | cons c cs ih =>
    rw [List.splitOnP_cons_eq_if_modifyHead] at h
    split at h
    · rcases List.mem_cons.mp h with rfl | h
      · exact List.nil_sublist _
      · exact (ih h).cons c
    · obtain ⟨first, others, hs⟩ := List.exists_cons_of_ne_nil (List.splitOnP_ne_nil p cs)
      rw [hs] at h ih
      rcases List.mem_cons.mp h with rfl | h
      · exact (ih (by simp)).cons_cons c
      · exact (ih (by simp [h])).cons c

theorem not_of_mem_splitOnP {p : Char → Bool} {piece cs : List Char} (h : piece ∈ cs.splitOnP p) :
    ∀ c ∈ piece, p c = false := by
  induction cs generalizing piece with
  | nil => simp_all
  | cons c cs ih =>
    rw [List.splitOnP_cons_eq_if_modifyHead] at h
    split at h
    · rcases List.mem_cons.mp h with rfl | h
      · simp
      · exact ih h
    · rename_i hc
      obtain ⟨first, others, hs⟩ := List.exists_cons_of_ne_nil (List.splitOnP_ne_nil p cs)
      rw [hs] at h ih
      rcases List.mem_cons.mp h with rfl | h
      · intro d hd
        rcases List.mem_cons.mp hd with rfl | hd
        · simpa using hc
        · exact ih (by simp) d hd
      · exact ih (by simp [h])

theorem mem_intercalate {mark c : Char} {pieces : List (List Char)}
    (h : c ∈ [mark].intercalate pieces) : c = mark ∨ ∃ piece ∈ pieces, c ∈ piece := by
  induction pieces with
  | nil => cases h
  | cons piece pieces ih =>
    cases pieces with
    | nil =>
      rw [List.intercalate_singleton] at h
      exact .inr ⟨piece, by simp, h⟩
    | cons next pieces =>
      rw [List.intercalate_cons_cons, List.mem_append, List.mem_append] at h
      rcases h with (h | h) | h
      · exact .inr ⟨piece, by simp, h⟩
      · exact .inl (List.mem_singleton.mp h)
      · rcases ih h with hc | ⟨other, hother, hc⟩
        · exact .inl hc
        · exact .inr ⟨other, List.mem_cons_of_mem piece hother, hc⟩

theorem intercalate_cons_eq_flatMap (mark : Char) (piece : List Char) (pieces : List (List Char)) :
    [mark].intercalate (piece :: pieces) = piece ++ pieces.flatMap (mark :: ·) := by
  induction pieces generalizing piece with
  | nil => simp [List.intercalate_singleton]
  | cons next pieces ih =>
    rw [List.intercalate_cons_cons, ih, List.flatMap_cons]
    simp

theorem length_splitOn (mark : Char) (cs : List Char) :
    (cs.splitOn mark).length = cs.count mark + 1 := by
  induction cs with
  | nil => rfl
  | cons c cs ih =>
    rw [List.splitOn_cons_eq_if_modifyHead, List.count_cons]
    split <;> simp [ih]

theorem count_intercalate (mark : Char) (piece : List Char) (pieces : List (List Char)) :
    ([mark].intercalate (piece :: pieces)).count mark =
      pieces.length + (piece :: pieces).flatten.count mark := by
  induction pieces generalizing piece with
  | nil => simp [List.intercalate_singleton]
  | cons next pieces ih =>
    rw [List.intercalate_cons_cons, List.count_append, List.count_append, ih,
      @List.flatten_cons _ piece, List.count_append, List.count_singleton_self, List.length_cons]
    omega

/-- Only a mark inside a piece makes more pieces than were put together. -/
theorem length_splitOn_intercalate_iff {mark : Char} {pieces : List (List Char)}
    (hne : pieces ≠ []) : (([mark].intercalate pieces).splitOn mark).length = pieces.length ↔
      ∀ piece ∈ pieces, mark ∉ piece := by
  obtain ⟨piece, others, rfl⟩ := List.exists_cons_of_ne_nil hne
  have hcount : (piece :: others).flatten.count mark = 0 ↔
      ∀ part ∈ piece :: others, mark ∉ part := by
    rw [List.count_eq_zero, List.mem_flatten]
    push Not
    rfl
  rw [length_splitOn, count_intercalate, List.length_cons, ← hcount]
  omega

theorem splitOn_flatMap_append {mark : Char} {pieces : List (List Char)}
    (h : ∀ piece ∈ pieces, mark ∉ piece) :
    (pieces.flatMap (· ++ [mark])).splitOn mark = pieces ++ [[]] := by
  induction pieces with
  | nil => rfl
  | cons piece pieces ih =>
    rw [List.forall_mem_cons] at h
    rw [List.flatMap_cons, List.append_assoc, List.singleton_append,
      List.splitOn_append_cons_self_of_not_mem h.1, ih h.2, List.cons_append]

section Pieces
variable {α β : Type}

theorem mapM_eq_some_iff {read? : α → Option β} {l : List α} {out : List β} :
    l.mapM read? = some out ↔ l.map read? = out.map some := by
  induction l generalizing out with
  | nil => cases out <;> simp
  | cons a l ih =>
    rw [List.mapM_cons, List.map_cons]
    cases read? a <;> cases out <;> simp [ih, Option.bind_eq_some_iff, and_comm]

theorem forall_of_mapM {read? : α → Option β} {l : List α} {out : List β}
    (h : l.mapM read? = some out) : ∀ b ∈ out, ∃ a ∈ l, read? a = some b := by
  intro b hb
  have hmem : some b ∈ l.map read? := mapM_eq_some_iff.mp h ▸ List.mem_map_of_mem hb
  exact List.mem_map.mp hmem

theorem ne_nil_of_mapM {read? : α → Option β} {l : List α} {out : List β} (hl : l ≠ [])
    (h : l.mapM read? = some out) : out ≠ [] := by
  rintro rfl
  exact hl (List.map_eq_nil_iff.mp (mapM_eq_some_iff.mp h))

theorem mapM_map_eq_some {write : α → β} {read? : β → Option α} {l : List α}
    (h : ∀ a ∈ l, read? (write a) = some a) : (l.map write).mapM read? = some l := by
  rw [mapM_eq_some_iff, List.map_map]
  exact List.map_congr_left h

theorem mapM_eq_some_iff_eq_map {write : α → β} {read? : β → Option α}
    (h : ∀ b a, read? b = some a ↔ b = write a) {l : List β} {out : List α} :
    l.mapM read? = some out ↔ l = out.map write := by
  rw [mapM_eq_some_iff]
  induction l generalizing out with
  | nil => cases out <;> simp
  | cons b l ih => cases out <;> simp [h, ih]

end Pieces

theorem hexValue_digitChar {d : Nat} (h : d < 16) : hexValue? d.digitChar = some d := by
  have all : ∀ m ∈ List.range 16, hexValue? m.digitChar = some m := by decide
  exact all d (List.mem_range.mpr h)

theorem number_append_singleton (base : Nat) (cs : List Char) (c : Char) :
    number? base (cs ++ [c]) =
      (number? base cs).bind fun n => (digit? base c).map (n * base + ·) := by
  simp [number?, List.foldlM_append]

variable {base n : Nat}

theorem digit_digitChar (hle : base ≤ 16) {d : Nat} (h : d < base) :
    digit? base d.digitChar = some d := by
  rw [digit?, hexValue_digitChar (by omega), Option.filter_some, if_pos (by simpa using h)]

theorem number_toDigits (hb : 1 < base) (hle : base ≤ 16) (n : Nat) :
    number? base (Nat.toDigits base n) = some n := by
  induction n using Nat.strongRecOn with
  | _ n ih =>
    rw [Nat.toDigits_eq_if hb]
    split
    · rename_i hlt
      have hone := number_append_singleton base [] n.digitChar
      rw [List.nil_append] at hone
      rw [hone, digit_digitChar hle hlt]
      simp [number?]
    · rename_i hge
      have hlt : n / base < n := Nat.div_lt_self (by omega) hb
      rw [number_append_singleton, ih _ hlt, digit_digitChar hle (Nat.mod_lt n (by omega))]
      simp [Nat.div_add_mod']

theorem mem_toDigits (hb : 1 < base) {c : Char} (h : c ∈ Nat.toDigits base n) :
    ∃ d < base, c = d.digitChar := by
  induction n using Nat.strongRecOn with
  | _ n ih =>
    rw [Nat.toDigits_eq_if hb] at h
    split at h
    · rename_i hlt
      exact ⟨n, hlt, List.mem_singleton.mp h⟩
    · rename_i hge
      rcases List.mem_append.mp h with h | h
      · exact ih (n / base) (Nat.div_lt_self (by omega) hb) h
      · exact ⟨n % base, Nat.mod_lt n (by omega), List.mem_singleton.mp h⟩

end Permalink.Text
