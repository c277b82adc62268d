import Permalink.Proofs.Text.Cut
import Permalink.Proofs.Url.Percent
import Permalink.Url.Parse

set_option autoImplicit false

namespace Permalink.Url.Path
open Text Percent

/-- A text that a path has as one segment, just as it is written. -/
structure IsLiteral (cs : List Char) : Prop where
  plain : ∀ c ∈ cs, c.toNat < 128 ∧ pathSet c = false ∧ isAnySlash c = false
  single : isSingleDot cs = false
  double : isDoubleDot cs = false

instance (cs : List Char) : Decidable (IsLiteral cs) :=
  decidable_of_iff (cs.all (fun c => c.toNat < 128 ∧ pathSet c = false ∧ isAnySlash c = false) ∧
      isSingleDot cs = false ∧ isDoubleDot cs = false) <| by
    simp only [List.all_eq_true, decide_eq_true_eq]
    exact ⟨fun h => ⟨h.1, h.2.1, h.2.2⟩, fun h => ⟨h.plain, h.single, h.double⟩⟩

theorem isLiteral_nil : IsLiteral [] := ⟨by simp, by decide, by decide⟩

theorem mem_of_mem_pop {s : List Char} {reversed : List (List Char)} (h : s ∈ pop reversed) :
    s ∈ reversed := by
  cases reversed with
  | nil => exact h
  | cons top below =>
    rw [pop] at h
    split at h
    · exact h
    · exact List.mem_cons_of_mem top h

section Push
variable {P : List Char → Prop} {push : List (List Char) → List Char → List (List Char)}
  {segments reversed : List (List Char)}

/-- Pushing a segment on others keeps what holds of all of them. -/
def Keeps (P : List Char → Prop) (push : List (List Char) → List Char → List (List Char)) : Prop :=
  ∀ reversed segment, (∀ s ∈ reversed, P s) → P segment → ∀ s ∈ push reversed segment, P s

theorem keeps_cons (P : List Char → Prop) :
    Keeps P fun reversed segment => segment :: reversed :=
  fun _ _ hr hs => List.forall_mem_cons.mpr ⟨hs, hr⟩

theorem forall_mem_step (hpush : Keeps P push) {segment : List Char} (hr : ∀ s ∈ reversed, P s)
    (hs : isSingleDot segment = false → isDoubleDot segment = false → P segment) :
    ∀ s ∈ step push reversed segment, P s := by
  intro s h
  unfold step at h
  split at h
  · exact hr s (mem_of_mem_pop h)
  split at h
  · exact hr s h
  · rename_i hdouble hsingle
    exact hpush reversed segment hr (hs (by simpa using hsingle) (by simpa using hdouble)) s h

theorem forall_mem_foldl_step (hpush : Keeps P push) (hr : ∀ s ∈ reversed, P s)
    (hs : ∀ s ∈ segments, isSingleDot s = false → isDoubleDot s = false → P s) :
    ∀ s ∈ segments.foldl (step push) reversed, P s := by
  induction segments generalizing reversed with
  | nil => exact hr
  | cons segment segments ih =>
    exact ih (forall_mem_step hpush hr (hs segment (by simp))) fun s h => hs s (by simp [h])

theorem forall_mem_resolveWith (hpush : Keeps P push) (hnil : P [])
    (hs : ∀ s ∈ segments, isSingleDot s = false → isDoubleDot s = false → P s) :
    ∀ s ∈ resolveWith push segments, P s := by
  have hfold : ∀ s ∈ segments.foldl (step push) [], P s :=
    forall_mem_foldl_step hpush (by simp) hs
  intro s h
  simp only [resolveWith, List.mem_reverse] at h
  split at h
  · rcases List.mem_cons.mp h with rfl | h
    · exact hnil
    · exact hfold s h
  · exact hfold s h

theorem forall_mem_resolve (hnil : P [])
    (hs : ∀ s ∈ segments, isSingleDot s = false → isDoubleDot s = false → P s) :
    ∀ s ∈ resolve segments, P s :=
  forall_mem_resolveWith (keeps_cons P) hnil hs

end Push

theorem resolve_ne_nil {segments : List (List Char)} (h : segments ≠ []) :
    resolve segments ≠ [] := by
  obtain ⟨front, last, rfl⟩ : ∃ front last, segments = front ++ [last] :=
    ⟨_, _, (List.dropLast_append_getLast h).symm⟩
  rw [resolve, resolveWith]
  simp only [List.getLast?_concat, Option.any_some, List.foldl_concat, ne_eq,
    List.reverse_eq_nil_iff]
  split
  · exact List.cons_ne_nil _ _
  · rename_i hdotted
    rw [Bool.or_eq_true, not_or] at hdotted
    rw [step, if_neg hdotted.2, if_neg hdotted.1]
    exact List.cons_ne_nil _ _

theorem foldl_step_of_undotted {segments : List (List Char)}
    (h : ∀ s ∈ segments, isSingleDot s = false ∧ isDoubleDot s = false)
    (reversed : List (List Char)) :
    segments.foldl (step fun reversed segment => segment :: reversed) reversed =
      segments.reverse ++ reversed := by
  induction segments generalizing reversed with
  | nil => rfl
  | cons segment segments ih =>
    have hs := h segment (by simp)
    rw [List.foldl_cons, ih (fun s hm => h s (by simp [hm])), step, hs.2, hs.1]
    simp

theorem resolve_of_undotted {segments : List (List Char)}
    (h : ∀ s ∈ segments, isSingleDot s = false ∧ isDoubleDot s = false) :
    resolve segments = segments := by
  have hlast :
      (segments.getLast?.any fun last => isSingleDot last || isDoubleDot last) = false := by
    cases hl : segments.getLast? with
    | none => rfl
    | some last =>
      have hs := h last (List.mem_of_getLast? hl)
      simp [hs.1, hs.2]
  rw [resolve, resolveWith, foldl_step_of_undotted h, hlast]
  simp

/-- Segments that are not empty are those left on the stack: what is added for a dot segment at the
end is empty. -/
theorem filter_resolve (segments : List (List Char)) :
    (resolve segments).filter (!·.isEmpty) =
      (segments.foldl (step fun reversed segment => segment :: reversed) []).reverse.filter
        (!·.isEmpty) := by
  rw [resolve, resolveWith]
  split <;> simp

theorem filter_resolve_concat (segments : List (List Char)) :
    (resolve (segments ++ [[]])).filter (!·.isEmpty) =
      (resolve segments).filter (!·.isEmpty) := by
  have hstep (reversed : List (List Char)) :
      step (fun reversed segment => segment :: reversed) reversed [] = [] :: reversed := rfl
  rw [filter_resolve, filter_resolve, List.foldl_concat, hstep]
  simp

/-- A slash at the end of a path adds an empty segment, or nothing to the empty path. -/
theorem filter_resolve_split_slash (cs : List Char) :
    (resolve (split isAnySlash [[]] (cs ++ ['/']))).filter (!·.isEmpty) =
      (resolve (split isAnySlash [[]] cs)).filter (!·.isEmpty) := by
  cases cs with
  | nil => rfl
  | cons c cs =>
    have hsplit : (cs ++ ['/']).splitOnP isAnySlash = cs.splitOnP isAnySlash ++ [[]] := by
      rw [List.splitOnP_append_cons cs [] rfl, List.splitOnP_nil]
    rw [List.cons_append, split, split, hsplit, List.map_append]
    exact filter_resolve_concat _

theorem not_separator_of_mem_encode {separator : Char → Bool} (hpercent : separator '%' = false)
    (hdigit : ∀ n < 16, separator (upperHexDigit n) = false) {part : List Char}
    (h : ∀ c ∈ part, separator c = false) : ∀ c ∈ encode pathSet part, separator c = false := by
  intro c hc
  obtain ⟨d, hd, hc⟩ := List.mem_flatMap.mp hc
  rcases mem_encodeChar hc with ⟨rfl, _⟩ | rfl | ⟨n, hn, rfl⟩
  · exact h c hd
  · exact hpercent
  · exact hdigit n hn

theorem plain_of_mem_split {separator : Char → Bool} (hpercent : separator '%' = false)
    (hdigit : ∀ n < 16, separator (upperHexDigit n) = false) {ofEmpty : List (List Char)}
    (hempty : ∀ s ∈ ofEmpty, s = []) {cs segment : List Char}
    (h : segment ∈ split separator ofEmpty cs) :
    ∀ c ∈ segment, c.toNat < 128 ∧ pathSet c = false ∧ separator c = false := by
  cases cs with
  | nil =>
    rw [hempty segment h]
    simp
  | cons first rest =>
    obtain ⟨part, hpart, rfl⟩ := List.mem_map.mp h
    intro c hc
    obtain ⟨hascii, hset⟩ := kept_of_mem_encode (by decide) (by decide) c hc
    exact ⟨hascii, hset,
      not_separator_of_mem_encode hpercent hdigit (not_of_mem_splitOnP hpart) c hc⟩

/-- Every segment of a special URL's path is literal. -/
theorem isLiteral_of_mem_resolve_split {cs segment : List Char}
    (h : segment ∈ resolve (split isAnySlash [[]] cs)) : IsLiteral segment := by
  refine forall_mem_resolve isLiteral_nil (fun s hs hsingle hdouble => ?_) segment h
  exact ⟨plain_of_mem_split (by decide) (by decide) (by simp) hs, hsingle, hdouble⟩

theorem text_rooted_eq {segments : List (List Char)} (h : segments ≠ []) :
    (rooted segments).text = '/' :: ['/'].intercalate segments := by
  obtain ⟨first, others, rfl⟩ := List.exists_cons_of_ne_nil h
  rw [intercalate_cons_eq_flatMap]
  rfl

theorem IsLiteral.encode_eq {cs : List Char} (h : IsLiteral cs) : Percent.encode pathSet cs = cs :=
  encode_eq_self fun c hc => ⟨(h.plain c hc).1, (h.plain c hc).2.1⟩

theorem splitOnP_literals {segment : List Char} {segments : List (List Char)}
    (h : ∀ s ∈ segment :: segments, ∀ c ∈ s, isAnySlash c = false) :
    (segment ++ segments.flatMap ('/' :: ·)).splitOnP isAnySlash = segment :: segments := by
  induction segments generalizing segment with
  | nil =>
    rw [List.flatMap_nil, List.append_nil]
    exact List.splitOnP_eq_singleton (h segment (by simp))
  | cons next segments ih =>
    rw [List.flatMap_cons, List.cons_append,
      List.splitOnP_append_cons_of_forall_mem (h segment (by simp)) '/' rfl,
      ih fun s hs => h s (by simp [hs])]

theorem ofSpecialText_text {segment : List Char} {segments : List (List Char)}
    (h : ∀ s ∈ segment :: segments, IsLiteral s) :
    ofSpecialText (rooted (segment :: segments)).text = rooted (segment :: segments) := by
  have hmap : (segment :: segments).map (Percent.encode pathSet) = segment :: segments := by
    conv_rhs => rw [← List.map_id (segment :: segments)]
    exact List.map_congr_left fun s hs => (h s hs).encode_eq
  change rooted (resolve (((segment ++ segments.flatMap ('/' :: ·)).splitOnP isAnySlash).map
    (Percent.encode pathSet))) = _
  rw [splitOnP_literals fun s hs c hc => ((h s hs).plain c hc).2.2, hmap,
    resolve_of_undotted fun s hs => ⟨(h s hs).single, (h s hs).double⟩]

theorem ofSpecialText_eq_rooted (cs : List Char) : ∃ first others,
    ofSpecialText cs = rooted (first :: others) ∧ ∀ s ∈ first :: others, IsLiteral s := by
  have hsplit : split isAnySlash [[]] cs ≠ [] := by
    cases cs with
    | nil => exact List.cons_ne_nil _ _
    | cons slash rest => simp [split, List.splitOnP_ne_nil]
  obtain ⟨first, others, hresolve⟩ := List.exists_cons_of_ne_nil (resolve_ne_nil hsplit)
  refine ⟨first, others, congrArg rooted hresolve, fun s hs => ?_⟩
  exact isLiteral_of_mem_resolve_split (hresolve ▸ hs)

end Permalink.Url.Path
