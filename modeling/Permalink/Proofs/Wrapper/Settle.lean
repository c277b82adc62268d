import Permalink.Proofs.Url.Parse
import Permalink.Sanitize

set_option autoImplicit false

/-!
A destination is shorter than its wrapper, so a round in which any wrapper is taken off makes the
link shorter. A round that changes nothing has therefore taken off nothing, and the length of a link
is fuel enough to get there.
-/

namespace Permalink
open Text

theorem Wrapper.utf8ByteSize_destination_lt {wrapper : Wrapper} {link target : String} {url : Url}
    (hp : Url.parse? link = some url) (h : wrapper.destination? url = some target) :
    target.utf8ByteSize < link.utf8ByteSize := by
  unfold Wrapper.destination? at h
  split at h
  · obtain ⟨name, _, hname⟩ := List.exists_of_findSome?_eq_some h
    exact Url.utf8ByteSize_param_lt hp hname
  · cases h

theorem Wrapper.utf8ByteSize_unwrap_lt {wrapper : Wrapper} {link target : String}
    (h : wrapper.unwrap? link = some target) : target.utf8ByteSize < link.utf8ByteSize := by
  unfold Wrapper.unwrap? at h
  split at h
  · obtain ⟨url, hp, hd⟩ := Option.bind_eq_some_iff.mp h
    exact utf8ByteSize_destination_lt hp hd
  · cases h

/-- A round without its trimming. -/
def peel (rules : List Wrapper) (link : String) : String :=
  rules.foldl (fun link rule => (rule.unwrap? link).getD link) link

theorem peel_cons (rule : Wrapper) (rules : List Wrapper) (link : String) :
    peel (rule :: rules) link = peel rules ((rule.unwrap? link).getD link) := rfl

theorem unwrapRound_eq (rules : List Wrapper) (link : String) :
    unwrapRound rules link = trim (peel rules (trimEnd link)) := rfl

variable {rules : List Wrapper} {link : String}

theorem utf8ByteSize_peel_le (rules : List Wrapper) (link : String) :
    (peel rules link).utf8ByteSize ≤ link.utf8ByteSize := by
  induction rules generalizing link with
  | nil => exact le_refl _
  | cons rule rules ih =>
    have hrest := ih ((rule.unwrap? link).getD link)
    rw [peel_cons]
    cases h : rule.unwrap? link with
    | none => simpa [h] using hrest
    | some target =>
      have hlt := Wrapper.utf8ByteSize_unwrap_lt h
      simp only [h, Option.getD_some] at hrest ⊢
      omega

theorem peel_of_none (h : ∀ rule ∈ rules, rule.unwrap? link = none) : peel rules link = link := by
  induction rules with
  | nil => rfl
  | cons rule rules ih =>
    rw [peel_cons, h rule (by simp)]
    exact ih fun rule hr => h rule (by simp [hr])

/-- What is left is no longer than the destination of the first wrapper that is taken off. -/
theorem exists_target_of_peel (h : ∃ rule ∈ rules, rule.unwrap? link ≠ none) :
    ∃ rule ∈ rules, ∃ target, rule.unwrap? link = some target ∧
      (peel rules link).utf8ByteSize ≤ target.utf8ByteSize := by
  induction rules with
  | nil => simp at h
  | cons rule rules ih =>
    rw [peel_cons]
    cases hr : rule.unwrap? link with
    | none =>
      obtain ⟨other, hmem, hother⟩ := h
      rcases List.mem_cons.mp hmem with rfl | hmem
      · exact absurd hr hother
      · obtain ⟨found, hfound, target, htarget, hle⟩ := ih ⟨other, hmem, hother⟩
        exact ⟨found, List.mem_cons_of_mem rule hfound, target, htarget, hle⟩
    | some target => exact ⟨rule, by simp, target, hr, utf8ByteSize_peel_le rules target⟩

theorem utf8ByteSize_unwrapRound_le (rules : List Wrapper) (link : String) :
    (unwrapRound rules link).utf8ByteSize ≤ link.utf8ByteSize := by
  have htrim := utf8ByteSize_trim_le (peel rules (trimEnd link))
  have hpeel := utf8ByteSize_peel_le rules (trimEnd link)
  have hend := utf8ByteSize_trimEnd_le link
  rw [unwrapRound_eq]
  omega

theorem utf8ByteSize_settle_le (rules : List Wrapper) (fuel : Nat) (link : String) :
    (settle rules fuel link).utf8ByteSize ≤ link.utf8ByteSize := by
  induction fuel generalizing link with
  | zero => exact le_refl _
  | succ fuel ih =>
    rw [settle]
    split
    · exact le_refl _
    · exact (ih _).trans (utf8ByteSize_unwrapRound_le rules link)

/-- Neither trimming nor a wrapper changes the link. -/
structure Settled (rules : List Wrapper) (link : String) : Prop where
  trimmed : trim link = link
  bare : ∀ rule ∈ rules, rule.unwrap? link = none

theorem trim_unwrapRound (rules : List Wrapper) (link : String) :
    trim (unwrapRound rules link) = unwrapRound rules link :=
  trim_trim _

theorem unwrapRound_of_trim (ht : trim link = link) :
    unwrapRound rules link = trim (peel rules link) := by
  rw [unwrapRound_eq, trimEnd_of_trim ht]

theorem unwrapRound_of_settled (h : Settled rules link) : unwrapRound rules link = link := by
  rw [unwrapRound_of_trim h.trimmed, peel_of_none h.bare, h.trimmed]

theorem exists_target_of_unwrapRound (ht : trim link = link) (h : ¬ Settled rules link) :
    ∃ rule ∈ rules, ∃ target, rule.unwrap? link = some target ∧
      (unwrapRound rules link).utf8ByteSize ≤ target.utf8ByteSize := by
  have hsome : ∃ rule ∈ rules, rule.unwrap? link ≠ none := by
    by_contra hnone
    push Not at hnone
    exact h ⟨ht, hnone⟩
  obtain ⟨rule, hmem, target, htarget, hle⟩ := exists_target_of_peel hsome
  refine ⟨rule, hmem, target, htarget, ?_⟩
  rw [unwrapRound_of_trim ht]
  exact (utf8ByteSize_trim_le _).trans hle

theorem utf8ByteSize_unwrapRound_lt (ht : trim link = link) (h : ¬ Settled rules link) :
    (unwrapRound rules link).utf8ByteSize < link.utf8ByteSize := by
  obtain ⟨rule, _, target, htarget, hle⟩ := exists_target_of_unwrapRound ht h
  have hlt := Wrapper.utf8ByteSize_unwrap_lt htarget
  omega

theorem unwrapRound_ne (ht : trim link = link) (h : ¬ Settled rules link) :
    unwrapRound rules link ≠ link := by
  intro heq
  have hlt := utf8ByteSize_unwrapRound_lt ht h
  rw [heq] at hlt
  omega

theorem settle_of_settled (h : Settled rules link) (fuel : Nat) :
    settle rules fuel link = link := by
  cases fuel with
  | zero => rfl
  | succ fuel => simp [settle, unwrapRound_of_settled h]

theorem settle_settled {fuel : Nat} (ht : trim link = link) (hf : link.utf8ByteSize < fuel) :
    Settled rules (settle rules fuel link) := by
  induction fuel generalizing link with
  | zero => omega
  | succ fuel ih =>
    by_cases hs : Settled rules link
    · rw [settle_of_settled hs]
      exact hs
    · have hlt := utf8ByteSize_unwrapRound_lt ht hs
      simp only [settle, unwrapRound_ne ht hs, if_false]
      exact ih (trim_unwrapRound rules link) (by omega)

theorem sanitizeWith_settled (rules : List Wrapper) (raw : String) :
    Settled rules (sanitizeWith rules raw) := by
  refine settle_settled (trim_trim raw) ?_
  have hle := utf8ByteSize_trim_le raw
  omega

theorem sanitizeWith_of_settled {raw : String} (h : Settled rules (trim raw)) :
    sanitizeWith rules raw = trim raw :=
  settle_of_settled h _

theorem sanitizeWith_eq_self_iff : sanitizeWith rules link = link ↔ Settled rules link := by
  constructor
  · intro h
    rw [← h]
    exact sanitizeWith_settled rules link
  · intro h
    have ht := h.trimmed
    rw [sanitizeWith_of_settled (by rwa [ht]), ht]

theorem exists_target_of_sanitizeWith (ht : trim link = link) (h : ¬ Settled rules link) :
    ∃ rule ∈ rules, ∃ target, rule.unwrap? link = some target ∧
      (sanitizeWith rules link).utf8ByteSize ≤ target.utf8ByteSize := by
  obtain ⟨rule, hmem, target, htarget, hle⟩ := exists_target_of_unwrapRound ht h
  refine ⟨rule, hmem, target, htarget, ?_⟩
  rw [sanitizeWith, ht, settle]
  simp only [unwrapRound_ne ht h, if_false]
  exact (utf8ByteSize_settle_le rules _ _).trans hle

theorem sanitize_normal_form (raw : String) :
    sanitize raw = trim (sanitize raw) ∧
      (∀ wrapper ∈ wrappers, wrapper.unwrap? (sanitize raw) = none) ∧
      sanitize (sanitize raw) = sanitize raw ∧
      ((∀ wrapper ∈ wrappers, wrapper.unwrap? (trim raw) = none) → sanitize raw = trim raw) := by
  have hs : Settled wrappers (sanitize raw) := sanitizeWith_settled wrappers raw
  refine ⟨hs.trimmed.symm, hs.bare, sanitizeWith_eq_self_iff.mpr hs, fun hnone => ?_⟩
  exact sanitizeWith_of_settled ⟨trim_trim raw, hnone⟩

theorem sanitize_normal_form_of_padded :
    (∀ wrapper ∈ wrappers, wrapper.unwrap? (trim " https://youtu.be/a b ") = none) ∧
      sanitize " https://youtu.be/a b " = trim " https://youtu.be/a b " := by
  have h : ∀ wrapper ∈ wrappers, wrapper.unwrap? (trim " https://youtu.be/a b ") = none := by
    decide
  exact ⟨h, (sanitize_normal_form " https://youtu.be/a b ").2.2.2 h⟩

/-- The rounds on a link without a bound on their number: how many there are, of which only the last
one changes nothing, and the link that they leave. -/
inductive Rounds (rules : List Wrapper) : String → Nat → String → Prop where
  | rest {link : String} : unwrapRound rules link = link → Rounds rules link 1 link
  | next {link left : String} {n : Nat} : unwrapRound rules link ≠ link →
      Rounds rules (unwrapRound rules link) n left → Rounds rules link (n + 1) left

theorem Rounds.unique {left other : String} {n m : Nat} (h : Rounds rules link n left)
    (ho : Rounds rules link m other) : n = m ∧ left = other := by
  induction h generalizing m with
  | rest hrest =>
    cases ho with
    | rest _ => exact ⟨rfl, rfl⟩
    | next hne _ => exact absurd hrest hne
  | next hne _ ih =>
    cases ho with
    | rest hrest => exact absurd hrest hne
    | next _ ho =>
      obtain ⟨rfl, rfl⟩ := ih ho
      exact ⟨rfl, rfl⟩

theorem utf8ByteSize_unwrapRound_lt_of_ne (ht : trim link = link)
    (hne : unwrapRound rules link ≠ link) :
    (unwrapRound rules link).utf8ByteSize < link.utf8ByteSize :=
  utf8ByteSize_unwrapRound_lt ht fun hs => hne (unwrapRound_of_settled hs)

/-- Enough fuel is not used up: what `settle` leaves is what rounds without a bound leave. -/
theorem exists_rounds_settle {fuel : Nat} (ht : trim link = link) (hf : link.utf8ByteSize < fuel) :
    ∃ n ≤ link.utf8ByteSize + 1, Rounds rules link n (settle rules fuel link) := by
  induction fuel generalizing link with
  | zero => omega
  | succ fuel ih =>
    rw [settle]
    split
    · rename_i hrest
      exact ⟨1, by omega, .rest hrest⟩
    · rename_i hne
      have hlt := utf8ByteSize_unwrapRound_lt_of_ne ht hne
      obtain ⟨n, hn, hrounds⟩ := ih (trim_unwrapRound rules link) (by omega)
      exact ⟨n + 1, by omega, .next hne hrounds⟩

theorem exists_rounds_sanitizeWith (rules : List Wrapper) (raw : String) :
    ∃ n ≤ raw.utf8ByteSize + 1, Rounds rules (trim raw) n (sanitizeWith rules raw) := by
  have hle := utf8ByteSize_trim_le raw
  obtain ⟨n, hn, hrounds⟩ : ∃ n ≤ (trim raw).utf8ByteSize + 1,
      Rounds rules (trim raw) n (sanitizeWith rules raw) :=
    exists_rounds_settle (trim_trim raw) (by omega)
  exact ⟨n, by omega, hrounds⟩

theorem utf8ByteSize_sanitizeWith_le (rules : List Wrapper) (raw : String) :
    (sanitizeWith rules raw).utf8ByteSize ≤ raw.utf8ByteSize :=
  (utf8ByteSize_settle_le rules _ _).trans (utf8ByteSize_trim_le raw)

/-- A destination is shorter than its link. So the rounds on any text end, with the link that
`sanitize` gives, and are at most one more than the text has bytes. -/
theorem sanitize_ends_within_size :
    (∀ (wrapper : Wrapper) (link target : String), wrapper.unwrap? link = some target →
      target.utf8ByteSize < link.utf8ByteSize) ∧
    ∀ raw : String,
      (∃ n ≤ raw.utf8ByteSize + 1, ∀ m left,
        Rounds wrappers (trim raw) m left ↔ m = n ∧ left = sanitize raw) ∧
      (sanitize raw).utf8ByteSize ≤ raw.utf8ByteSize := by
  refine ⟨fun _ _ _ h => Wrapper.utf8ByteSize_unwrap_lt h, fun raw => ⟨?_, ?_⟩⟩
  · obtain ⟨n, hn, hrounds⟩ : ∃ n ≤ raw.utf8ByteSize + 1,
        Rounds wrappers (trim raw) n (sanitize raw) := exists_rounds_sanitizeWith wrappers raw
    refine ⟨n, hn, fun m left => ⟨fun h => h.unique hrounds, ?_⟩⟩
    rintro ⟨hm, hleft⟩
    rw [hm, hleft]
    exact hrounds
  · exact utf8ByteSize_sanitizeWith_le wrappers raw

/-- The bytes that are no UTF-8 come out three times as long, and the destination still shrinks. -/
theorem destination_of_broken_escapes_is_shorter :
    Wrapper.safelinks.unwrap? "https://a.safelinks.protection.outlook.com?url=é\t%FF%fe%" =
        some "é\uFFFD\uFFFD%" ∧
      "é\uFFFD\uFFFD%".utf8ByteSize <
        "https://a.safelinks.protection.outlook.com?url=é\t%FF%fe%".utf8ByteSize := by
  have h : Wrapper.safelinks.unwrap? "https://a.safelinks.protection.outlook.com?url=é\t%FF%fe%" =
      some "é\uFFFD\uFFFD%" := by decide +kernel
  exact ⟨h, sanitize_ends_within_size.1 _ _ _ h⟩

end Permalink
