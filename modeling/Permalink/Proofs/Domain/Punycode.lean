import Mathlib.Data.List.InsertIdx
import Mathlib.Data.List.Sort
import Mathlib.Data.List.TakeWhile
import Mathlib.Tactic.Ring
import Permalink.Domain.Punycode

set_option autoImplicit false

/-!
The insertions of a word are in ascending order, by code point and then by place. So each one is
ahead of the cursor that the one before it has left, and its distance takes the cursor there.
-/

namespace Permalink.Domain.Punycode

theorem readDistance_writeDistance (bias k weight sum distance : Nat) (rest : List Char) :
    readDistance? bias k weight sum (writeDistance bias k distance ++ rest) =
      some (sum + distance * weight, rest) := by
  induction distance using Nat.strongRecOn generalizing k weight sum with
  | _ distance ih =>
    have hpos := threshold_pos k bias
    have hle := threshold_le k bias
    rw [writeDistance]
    split
    · rename_i hlt
      rw [List.singleton_append, readDistance?, digitValue_digit (by omega), Option.bind_some]
      simp only [hlt, if_true]
    · rename_i hge
      have hmod := Nat.mod_lt (distance - threshold k bias) (by omega : 0 < 36 - threshold k bias)
      have hdiv := Nat.div_le_self (distance - threshold k bias) (36 - threshold k bias)
      have hdigit : ¬ threshold k bias + (distance - threshold k bias) % (36 - threshold k bias) <
          threshold k bias := by omega
      rw [List.cons_append, readDistance?, digitValue_digit (by omega), Option.bind_some]
      simp only [hdigit, if_false]
      rw [ih _ (by omega)]
      have hvalue := Nat.mod_add_div (distance - threshold k bias) (36 - threshold k bias)
      generalize (distance - threshold k bias) / (36 - threshold k bias) = high at *
      generalize (distance - threshold k bias) % (36 - threshold k bias) = low at *
      have hdistance : distance = threshold k bias + low + high * (36 - threshold k bias) := by
        rw [Nat.mul_comm]
        omega
      have hsum : sum + (threshold k bias + low) * weight + high * (weight * (36 - threshold k bias)) =
          sum + (threshold k bias + low + high * (36 - threshold k bias)) * weight := by ring
      rw [hsum, ← hdistance]

theorem writeDistance_ne_nil (bias k distance : Nat) : writeDistance bias k distance ≠ [] := by
  rw [writeDistance]
  split <;> simp

/-- Insertions that build a word up to `result`, each one ahead of the one before, the last of which
was of `point` in front of `index`. -/
inductive Builds : Nat → Nat → List Char → List (Nat × Nat) → List Char → Prop where
  | done (point index : Nat) (word : List Char) : Builds point index word [] word
  | insert {point index : Nat} {word : List Char} {c : Char} {place : Nat}
      {rest : List (Nat × Nat)} {result : List Char} (hpoint : point ≤ c.toNat)
      (hindex : point = c.toNat → index ≤ place) (hplace : place ≤ word.length)
      (hrest : Builds c.toNat (place + 1) (word.insertIdx place c) rest result) :
      Builds point index word ((c.toNat, place) :: rest) result

theorem readInsertions_writeInsertions {point index : Nat} {word result : List Char}
    {insertions : List (Nat × Nat)} (h : Builds point index word insertions result) {s : Cursor}
    (hpoint : s.point = point) (hindex : s.index = index) (hsize : s.size = word.length)
    (hle : index ≤ word.length) {fuel : Nat}
    (hfuel : (writeInsertions s insertions).length ≤ fuel) :
    readInsertions? fuel s word (writeInsertions s insertions) = some result := by
  induction h generalizing s fuel with
  | done => cases fuel <;> rfl
  | @insert point index word c place rest result hp hi hplace hrest ih =>
    -- The cursor does not go back: the code point is a later one, or the same one further on.
    have hreach : s.index ≤ (c.toNat - s.point) * (s.size + 1) + place := by
      rcases Nat.eq_or_lt_of_le hp with heq | hlt
      · have hi := hi heq
        omega
      · have hstep : 1 * (s.size + 1) ≤ (c.toNat - s.point) * (s.size + 1) :=
          Nat.mul_le_mul_right _ (by omega)
        omega
    obtain ⟨hpoint', hindex'⟩ := Cursor.advance_distance (s := s) (by omega) hreach (by omega)
    have hlength : (word.insertIdx place c).length = word.length + 1 :=
      List.length_insertIdx_of_le_length hplace c
    have hsize' : (s.advance (s.distance c.toNat place)).size = (word.insertIdx place c).length := by
      rw [hlength, ← hsize]
      rfl
    obtain ⟨first, digits, hdigits⟩ := List.exists_cons_of_ne_nil
      (writeDistance_ne_nil s.bias 36 (s.distance c.toNat place))
    have hread := readDistance_writeDistance s.bias 36 1 0 (s.distance c.toNat place)
      (writeInsertions (s.advance (s.distance c.toNat place)) rest)
    rw [writeInsertions, hdigits, List.cons_append] at hfuel ⊢
    rw [hdigits, List.cons_append] at hread
    cases fuel with
    | zero => simp at hfuel
    | succ fuel =>
      rw [readInsertions?, hread, Option.bind_some]
      simp only [Nat.zero_add, Nat.mul_one, hpoint', hindex', Nat.add_sub_cancel]
      have hvalid : c.toNat.isValidChar := c.valid
      rw [if_pos hvalid, Char.ofNat_toNat]
      refine ih hpoint' hindex' hsize' (by omega) ?_
      rw [List.length_cons, List.length_append] at hfuel
      omega

theorem insertIdx_length_append (front back : List Char) (c : Char) :
    (front ++ back).insertIdx front.length c = front ++ c :: back := by
  induction front with
  | nil => rfl
  | cons d front ih => exact congrArg (d :: ·) ih

/-- The insertions of one code point behind `front`, after which there are others. -/
theorem builds_places {p : Nat} {rest : List (Nat × Nat)} {result : List Char} (cs : List Char)
    {front : List Char} {point index : Nat} (hpoint : point ≤ p)
    (hindex : point = p → index ≤ front.length)
    (hrest : ∀ point index, point ≤ p →
      Builds point index (front ++ cs.filter (·.toNat ≤ p)) rest result) :
    Builds point index (front ++ cs.filter (·.toNat < p))
      ((places p front.length cs).map (p, ·) ++ rest) result := by
  induction cs generalizing front point index with
  | nil => exact hrest point index hpoint
  | cons c cs ih =>
    rw [places]
    by_cases heq : c.toNat = p
    · subst heq
      have hlater := @ih (front ++ [c]) c.toNat (front.length + 1) (le_refl _) (by simp)
        (by simpa using hrest)
      rw [List.length_append, List.length_singleton, List.append_assoc] at hlater
      rw [if_pos rfl, List.map_cons, List.cons_append, List.filter_cons_of_neg (by simp)]
      refine Builds.insert hpoint hindex (by simp) ?_
      rw [insertIdx_length_append]
      exact hlater
    · rw [if_neg heq]
      by_cases hlt : c.toNat < p
      · have hle : c.toNat ≤ p := by omega
        have hlater := @ih (front ++ [c]) point index hpoint
          (fun h => by simp; have := hindex h; omega) (by simpa [hle] using hrest)
        simpa [hlt] using hlater
      · have hgt : ¬ c.toNat ≤ p := by omega
        have hlater := @ih front point index hpoint hindex (by simpa [hgt] using hrest)
        simpa [hlt] using hlater

/-- Ascending code points, with all those of the word from `low` on, build the word. -/
theorem builds_points (cs : List Char) {points : List Nat} {low point index : Nat}
    (hsorted : points.Pairwise (· < ·)) (hlow : ∀ p ∈ points, low ≤ p)
    (hall : ∀ c ∈ cs, low ≤ c.toNat → c.toNat ∈ points) (hpoint : point ≤ low)
    (hindex : point = low → index = 0) :
    Builds point index (cs.filter (·.toNat < low))
      (points.flatMap fun p => (places p 0 cs).map (p, ·)) cs := by
  induction points generalizing low point index with
  | nil =>
    have hself : cs.filter (·.toNat < low) = cs := by
      refine List.filter_eq_self.mpr fun c hc => ?_
      rw [decide_eq_true_eq]
      by_contra hge
      exact List.not_mem_nil (hall c hc (by omega))
    rw [hself]
    exact Builds.done point index cs
  | cons p points ih =>
    obtain ⟨hlt, hsorted⟩ := List.pairwise_cons.mp hsorted
    have hp := hlow p List.mem_cons_self
    -- No character of the word has a code point between the bound and the next point.
    have hbelow : cs.filter (·.toNat < low) = cs.filter (·.toNat < p) := by
      refine List.filter_congr fun c hc => ?_
      rw [decide_eq_decide]
      refine ⟨fun h => by omega, fun h => ?_⟩
      by_contra hge
      rcases List.mem_cons.mp (hall c hc (by omega)) with heq | hmem
      · omega
      · have := hlt _ hmem
        omega
    rw [hbelow, List.flatMap_cons]
    refine @builds_places p _ cs cs [] point index (by omega) (fun h => ?_)
      fun point' index' hpoint' => ?_
    · have := hindex (by omega)
      simp [this]
    · have hsucc : cs.filter (·.toNat ≤ p) = cs.filter (·.toNat < p + 1) :=
        List.filter_congr fun c _ => by rw [decide_eq_decide]; omega
      rw [List.nil_append, hsucc]
      refine ih hsorted (fun q hq => hlt q hq) (fun c hc hle => ?_) (by omega) (by omega)
      rcases List.mem_cons.mp (hall c hc (by omega)) with heq | hmem
      · omega
      · exact hmem

theorem eraseDups_pairwise_lt {l : List Nat} (h : l.Pairwise (· ≤ ·)) :
    l.eraseDups.Pairwise (· < ·) := by
  induction hn : l.length using Nat.strongRecOn generalizing l with
  | _ n ih =>
    cases l with
    | nil => exact List.Pairwise.nil
    | cons a l =>
      obtain ⟨hle, hl⟩ := List.pairwise_cons.mp h
      have hlength := List.length_filter_le (fun b => !b == a) l
      rw [List.length_cons] at hn
      rw [List.eraseDups_cons]
      refine List.pairwise_cons.mpr ⟨fun b hb => ?_, ih _ (by omega) (hl.filter _) rfl⟩
      have hmem := List.mem_filter.mp (List.mem_eraseDups.mp hb)
      have hne : b ≠ a := by simpa using hmem.2
      have := hle b hmem.1
      omega

theorem mem_points {cs : List Char} {point : Nat} :
    point ∈ points cs ↔ 128 ≤ point ∧ ∃ c ∈ cs, c.toNat = point := by
  simp only [points, List.mem_eraseDups, List.mem_mergeSort, List.mem_filter, List.mem_map,
    decide_eq_true_eq]
  exact and_comm

theorem points_pairwise_lt (cs : List Char) : (points cs).Pairwise (· < ·) := by
  refine eraseDups_pairwise_lt ?_
  have hsorted := @List.pairwise_mergeSort _ (fun a b : Nat => decide (a ≤ b))
    (fun a b c => by simp; omega) (fun a b => by simp; omega)
    ((cs.map Char.toNat).filter (128 ≤ ·))
  exact hsorted.imp fun h => by simpa using h

theorem builds_insertions (cs : List Char) :
    Builds 128 0 (cs.filter (·.toNat < 128)) (insertions cs) cs :=
  builds_points cs (points_pairwise_lt cs) (fun _ hp => (mem_points.mp hp).1)
    (fun c hc hle => mem_points.mpr ⟨hle, c, hc, rfl⟩) (le_refl _) fun _ => rfl

theorem mem_writeDistance {c : Char} {bias k distance : Nat}
    (h : c ∈ writeDistance bias k distance) : ∃ n < 36, c = digit n := by
  induction distance using Nat.strongRecOn generalizing k with
  | _ distance ih =>
    have hpos := threshold_pos k bias
    have hle := threshold_le k bias
    rw [writeDistance] at h
    split at h
    · exact ⟨distance, by omega, List.mem_singleton.mp h⟩
    · have hmod := Nat.mod_lt (distance - threshold k bias) (by omega : 0 < 36 - threshold k bias)
      have hdiv := Nat.div_le_self (distance - threshold k bias) (36 - threshold k bias)
      rcases List.mem_cons.mp h with rfl | h
      · exact ⟨_, by omega, rfl⟩
      · exact ih _ (by omega) h

theorem mem_writeInsertions {c : Char} {s : Cursor} {insertions : List (Nat × Nat)}
    (h : c ∈ writeInsertions s insertions) : ∃ n < 36, c = digit n := by
  induction insertions generalizing s with
  | nil => cases h
  | cons insertion rest ih =>
    rw [writeInsertions, List.mem_append] at h
    rcases h with h | h
    · exact mem_writeDistance h
    · exact ih h

theorem hyphen_not_mem_writeInsertions (s : Cursor) (insertions : List (Nat × Nat)) :
    '-' ∉ writeInsertions s insertions := by
  intro h
  obtain ⟨n, hn, hc⟩ := mem_writeInsertions h
  have hvalue := digitValue_digit hn
  rw [← hc] at hvalue
  cases hvalue

theorem mem_encode {c : Char} {cs : List Char} (h : c ∈ encode cs) :
    (c ∈ cs ∧ c.toNat < 128) ∨ c = '-' ∨ ∃ n < 36, c = digit n := by
  simp only [encode, List.mem_append] at h
  rcases h with (h | h) | h
  · exact .inl (by simpa using h)
  · split at h
    · cases h
    · exact .inr (.inl (List.mem_singleton.mp h))
  · exact .inr (.inr (mem_writeInsertions h))

theorem parts_eq {cs tail : List Char} (h : (cs.reverse.takeWhile (· ≠ '-')).reverse = tail) :
    parts cs = if (cs.take (cs.length - tail.length - 1)).isEmpty then ([], cs)
      else (cs.take (cs.length - tail.length - 1), tail) := by
  subst h
  rfl

theorem ne_hyphen_of_mem_reverse {tail : List Char} (h : '-' ∉ tail) :
    ∀ c ∈ tail.reverse, decide (c ≠ '-') = true := by
  intro c hc
  rw [decide_eq_true_eq]
  rintro rfl
  exact h (List.mem_reverse.mp hc)

theorem parts_hyphen (front : List Char) {tail : List Char} (htail : '-' ∉ tail) :
    parts (front ++ '-' :: tail) =
      if front.isEmpty then ([], front ++ '-' :: tail) else (front, tail) := by
  have htake : ((front ++ '-' :: tail).reverse.takeWhile (· ≠ '-')).reverse = tail := by
    rw [List.reverse_append, List.reverse_cons, List.append_assoc,
      List.takeWhile_append_of_pos (ne_hyphen_of_mem_reverse htail)]
    simp
  have hlength : (front ++ '-' :: tail).length - tail.length - 1 = front.length := by
    rw [List.length_append, List.length_cons]
    omega
  rw [parts_eq htake, hlength, List.take_left]

theorem parts_of_not_mem {tail : List Char} (htail : '-' ∉ tail) : parts tail = ([], tail) := by
  have htake : (tail.reverse.takeWhile (· ≠ '-')).reverse = tail := by
    rw [← List.append_nil tail.reverse,
      List.takeWhile_append_of_pos (ne_hyphen_of_mem_reverse htail)]
    simp
  rw [parts_eq htake, Nat.sub_self, Nat.zero_sub, List.take_zero]
  rfl

theorem parts_encode (cs : List Char) : parts (encode cs) = (cs.filter (·.toNat < 128),
    writeInsertions (Cursor.start (cs.filter (·.toNat < 128)).length) (insertions cs)) := by
  have htail := hyphen_not_mem_writeInsertions
    (Cursor.start (cs.filter (·.toNat < 128)).length) (insertions cs)
  unfold encode
  simp only
  split
  · rename_i hempty
    rw [List.isEmpty_iff] at hempty
    rw [hempty] at htail ⊢
    exact parts_of_not_mem htail
  · rename_i hne
    rw [List.append_assoc, List.singleton_append]
    rw [parts_hyphen _ htail, if_neg hne]

theorem decode_encode (cs : List Char) : decode? (encode cs) = some cs := by
  have hascii : (cs.filter (·.toNat < 128)).all (·.toNat < 128) = true := by simp
  rw [decode?, parts_encode]
  simp only [hascii, if_true]
  exact readInsertions_writeInsertions (builds_insertions cs) rfl rfl rfl (Nat.zero_le _)
    (le_refl _)

theorem mem_parts {c : Char} {cs : List Char} (h : c ∈ cs) :
    c ∈ (parts cs).1 ∨ c = '-' ∨ c ∈ (parts cs).2 := by
  have hsplit := List.takeWhile_append_dropWhile (p := (· ≠ '-')) (l := cs.reverse)
  have htail : '-' ∉ (cs.reverse.takeWhile (· ≠ '-')).reverse := fun hmem => by
    simpa using List.mem_takeWhile_imp (List.mem_reverse.mp hmem)
  generalize cs.reverse.takeWhile (· ≠ '-') = tail at hsplit htail
  cases hd : cs.reverse.dropWhile (· ≠ '-') with
  | nil =>
    rw [hd, List.append_nil] at hsplit
    rw [hsplit, List.reverse_reverse] at htail
    rw [parts_of_not_mem htail]
    exact .inr (.inr h)
  | cons mark front =>
    have hmark : mark = '-' := by
      have hhead := List.head?_dropWhile_not (fun d => decide (d ≠ '-')) cs.reverse
      rw [hd] at hhead
      simpa using hhead
    subst hmark
    have hcs : cs = front.reverse ++ '-' :: tail.reverse := by
      rw [← List.reverse_reverse cs, ← hsplit, hd]
      simp
    rw [hcs, parts_hyphen _ htail]
    split
    · rw [← hcs]
      exact .inr (.inr h)
    · rw [hcs, List.mem_append, List.mem_cons] at h
      exact h

theorem readDistance_eq_some {bias k weight sum distance : Nat} {text rest : List Char}
    (h : readDistance? bias k weight sum text = some (distance, rest)) :
    ∃ digits, text = digits ++ rest ∧ ∀ c ∈ digits, (digitValue? c).isSome := by
  induction text generalizing k weight sum with
  | nil => cases h
  | cons c text ih =>
    rw [readDistance?] at h
    obtain ⟨d, hd, h⟩ := Option.bind_eq_some_iff.mp h
    have hc : (digitValue? c).isSome := by
      rw [hd]
      rfl
    simp only at h
    split at h
    · obtain ⟨_, rfl⟩ := Prod.mk.inj (Option.some.inj h)
      exact ⟨[c], rfl, by simpa using hc⟩
    · obtain ⟨digits, rfl, hdigits⟩ := ih h
      exact ⟨c :: digits, rfl, by simpa using ⟨hc, hdigits⟩⟩

theorem readInsertions_eq_some {fuel : Nat} {s : Cursor} {word text result : List Char}
    (h : readInsertions? fuel s word text = some result) :
    (∀ c ∈ word, c ∈ result) ∧ ∀ c ∈ text, (digitValue? c).isSome := by
  induction fuel generalizing s word text with
  | zero =>
    cases text with
    | nil =>
      rw [readInsertions?, Option.some.injEq] at h
      subst h
      simp
    | cons c text => cases h
  | succ fuel ih =>
    cases text with
    | nil =>
      rw [readInsertions?, Option.some.injEq] at h
      subst h
      simp
    | cons c text =>
      rw [readInsertions?] at h
      obtain ⟨⟨distance, rest⟩, hread, h⟩ := Option.bind_eq_some_iff.mp h
      obtain ⟨digits, htext, hdigits⟩ := readDistance_eq_some hread
      simp only at h
      split at h
      · obtain ⟨hword, hrest⟩ := ih h
        rw [htext]
        refine ⟨fun d hd => hword d ?_, fun d hd => ?_⟩
        · exact List.subset_insertIdx word _ _ hd
        · exact (List.mem_append.mp hd).elim (hdigits d) (hrest d)
      · cases h

theorem mem_of_decode {c : Char} {cs word : List Char} (h : decode? cs = some word)
    (hc : c ∈ cs) : c ∈ word ∨ c = '-' ∨ (digitValue? c).isSome := by
  rw [decode?] at h
  simp only at h
  split at h
  · obtain ⟨hword, htext⟩ := readInsertions_eq_some h
    exact (mem_parts hc).imp (hword c) (Or.imp_right (htext c))
  · cases h

end Permalink.Domain.Punycode
