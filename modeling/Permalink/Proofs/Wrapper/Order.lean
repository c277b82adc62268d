import Mathlib.Data.List.Perm.Subperm
import Mathlib.Logic.Relation
import Permalink.Proofs.Url.Literal
import Permalink.Proofs.Wrapper.Hidden

set_option autoImplicit false

/-!
A round hands the destination of one rule to the rules after it, and trims only what is left at the
end. The order of the rules is seen where two of them take different destinations out of one text,
and where a text that was not trimmed yet is unwrapped otherwise than it is when trimmed.
-/

namespace Permalink
open Text Relation

/-- The texts that rounds of unwrapping make of a link, each with the rules that its round has left
to try. -/
inductive Met (rules : List Wrapper) (link : String) : List Wrapper → String → Prop where
  | start : Met rules link rules (trim link)
  | target {left : List Wrapper} {text target : String} {rule : Wrapper} :
      Met rules link left text → rule ∈ left → rule.unwrap? text = some target →
        Met rules link (left.erase rule) target
  | trimmed {left : List Wrapper} {text : String} :
      Met rules link left text → Met rules link rules (trim text)

/-- The rules that a round has left to try agree on a text, and what they take out of it comes off
in the next round as well. Destinations count as the same if they are so once trimmed. -/
structure IsClear (rules left : List Wrapper) (text : String) : Prop where
  agree : ∀ first ∈ left, ∀ second ∈ left, ∀ a ∈ first.unwrap? text,
    ∀ b ∈ second.unwrap? text, trim a = trim b
  trimmed : ∀ rule ∈ left, ∀ target ∈ rule.unwrap? text,
    ∃ other ∈ rules, ∃ again ∈ other.unwrap? (trim text), trim again = trim target

instance (rules left : List Wrapper) (text : String) : Decidable (IsClear rules left text) :=
  decidable_of_iff ((∀ first ∈ left, ∀ second ∈ left, ∀ a ∈ first.unwrap? text,
      ∀ b ∈ second.unwrap? text, trim a = trim b) ∧
      ∀ rule ∈ left, ∀ target ∈ rule.unwrap? text,
        ∃ other ∈ rules, ∃ again ∈ other.unwrap? (trim text), trim again = trim target)
    ⟨fun h => ⟨h.1, h.2⟩, fun h => ⟨h.agree, h.trimmed⟩⟩

variable {rules left order : List Wrapper} {link text : String}

theorem IsClear.of_subset (h : IsClear rules rules text) (hsub : left ⊆ rules) :
    IsClear rules left text :=
  ⟨fun first hfirst second hsecond => h.agree first (hsub hfirst) second (hsub hsecond),
    fun rule hrule => h.trimmed rule (hsub hrule)⟩

theorem Met.mem_of_closed {texts : List String} (hstart : trim link ∈ texts)
    (htarget : ∀ text ∈ texts, ∀ rule ∈ rules, ∀ target ∈ rule.unwrap? text, target ∈ texts)
    (htrim : ∀ text ∈ texts, trim text ∈ texts) (h : Met rules link left text) :
    left ⊆ rules ∧ text ∈ texts := by
  induction h with
  | start => exact ⟨List.Subset.refl rules, hstart⟩
  | target _ hrule hunwrap ih =>
    exact ⟨List.Subset.trans List.erase_subset ih.1, htarget _ ih.2 _ (ih.1 hrule) _ hunwrap⟩
  | trimmed _ ih => exact ⟨List.Subset.refl rules, htrim _ ih.2⟩

/-- A wrapper comes off a text at the start of a round, and what was in it is trimmed. -/
def Unwraps (rules : List Wrapper) (link text next : String) : Prop :=
  Met rules link rules text ∧ ∃ rule ∈ rules, ∃ target, rule.unwrap? text = some target ∧
    trim target = next

theorem rightUnique_unwraps (hclear : ∀ left text, Met rules link left text →
    IsClear rules left text) : Relator.RightUnique (Unwraps rules link) := by
  rintro text _ _ ⟨hmet, first, hfirst, a, ha, rfl⟩ ⟨_, second, hsecond, b, hb, rfl⟩
  exact (hclear rules text hmet).agree first hfirst second hsecond a ha b hb

theorem Met.unwraps_trim (hmet : Met rules link left text) (hclear : IsClear rules left text)
    {rule : Wrapper} {target : String} (hrule : rule ∈ left)
    (h : rule.unwrap? text = some target) : Unwraps rules link (trim text) (trim target) := by
  obtain ⟨other, hother, again, hagain, htrim⟩ := hclear.trimmed rule hrule target h
  exact ⟨hmet.trimmed, other, hother, again, hagain, htrim⟩

theorem Settled.not_unwraps (h : Settled rules text) (next : String) :
    ¬ Unwraps rules link text next := by
  rintro ⟨_, rule, hrule, target, htarget, _⟩
  rw [h.bare rule hrule] at htarget
  cases htarget

theorem Settled.eq_of_reflTransGen {last : String} (h : Settled rules text)
    (hsteps : ReflTransGen (Unwraps rules link) text last) : last = text := by
  rcases hsteps.cases_head with heq | ⟨next, hstep, _⟩
  · exact heq.symm
  · exact absurd hstep (h.not_unwraps next)

section Order
variable (hclear : ∀ left text, Met rules link left text → IsClear rules left text)
include hclear

/-- Whichever rules are tried, in whatever order, a text only moves along its chain. -/
theorem unwraps_peel (horder : order.Subperm left) (hmet : Met rules link left text) :
    (∃ rest, Met rules link rest (peel order text)) ∧
      ReflTransGen (Unwraps rules link) (trim text) (trim (peel order text)) := by
  induction order generalizing left text with
  | nil => exact ⟨⟨left, hmet⟩, .refl⟩
  | cons rule order ih =>
    rw [peel_cons]
    cases h : rule.unwrap? text with
    | none => exact ih (List.Subperm.cons_self.trans horder) hmet
    | some target =>
      have hrule : rule ∈ left := horder.subset List.mem_cons_self
      -- No later rule of the round is the one that came off, unless the table has it again.
      have hothers : order.Subperm (left.erase rule) := by
        simpa using horder.erase rule
      obtain ⟨hlast, hsteps⟩ := ih hothers (hmet.target hrule h)
      exact ⟨hlast, hsteps.head (hmet.unwraps_trim (hclear left text hmet) hrule h)⟩

variable (horder : order.Subperm rules)
include horder

theorem unwraps_unwrapRound (hmet : Met rules link rules text) (ht : trim text = text) :
    Met rules link rules (unwrapRound order text) ∧
      ReflTransGen (Unwraps rules link) text (unwrapRound order text) := by
  obtain ⟨⟨_, hlast⟩, hsteps⟩ := unwraps_peel hclear horder hmet
  rw [ht] at hsteps
  rw [unwrapRound_of_trim ht]
  exact ⟨hlast.trimmed, hsteps⟩

theorem unwraps_settle (fuel : Nat) (hmet : Met rules link rules text) (ht : trim text = text) :
    ReflTransGen (Unwraps rules link) text (settle order fuel text) := by
  induction fuel generalizing text with
  | zero => exact .refl
  | succ fuel ih =>
    rw [settle]
    split
    · exact .refl
    · obtain ⟨hnext, hround⟩ := unwraps_unwrapRound hclear horder hmet ht
      exact hround.trans (ih hnext (trim_unwrapRound order text))

theorem unwraps_sanitizeWith :
    ReflTransGen (Unwraps rules link) (trim link) (sanitizeWith order link) :=
  unwraps_settle hclear horder _ Met.start (trim_trim link)

end Order

theorem sanitizeWith_of_perm (hperm : order.Perm rules)
    (hclear : ∀ left text, Met rules link left text → IsClear rules left text) :
    sanitizeWith order link = sanitizeWith rules link := by
  have hend : Settled rules (sanitizeWith order link) := by
    have hs := sanitizeWith_settled order link
    exact ⟨hs.trimmed, fun rule hrule => hs.bare rule (hperm.mem_iff.mpr hrule)⟩
  have hother : ReflTransGen (Unwraps rules link) (trim link) (sanitizeWith order link) :=
    unwraps_sanitizeWith hclear hperm.subperm
  have htable : ReflTransGen (Unwraps rules link) (trim link) (sanitizeWith rules link) :=
    unwraps_sanitizeWith hclear (List.Subperm.refl rules)
  -- Both ends are at rest, so that neither chain goes on from where the other one stopped.
  rcases ReflTransGen.total_of_right_unique (rightUnique_unwraps hclear) hother htable with h | h
  · exact (hend.eq_of_reflTransGen h).symm
  · exact (sanitizeWith_settled rules link).eq_of_reflTransGen h

theorem Wrapper.wraps_of_unwrap {wrapper : Wrapper} (h : (wrapper.unwrap? link).isSome) :
    ∃ url, Url.parse? link = some url ∧ wrapper.Wraps url := by
  cases hp : Url.parse? link with
  | none =>
    rw [Wrapper.unwrap?, hp] at h
    split at h <;> cases h
  | some url => exact ⟨url, rfl, ((Wrapper.unwrap_isSome_iff hp).mp h).2⟩

/-- Only the rule without a path comes off a link together with another rule, at a host that has the
parts of both. -/
theorem overlap_of_unwrap {first second : Wrapper} (hfirst : first ∈ wrappers)
    (hsecond : second ∈ wrappers) (hne : first ≠ second) (ha : (first.unwrap? link).isSome)
    (hb : (second.unwrap? link).isSome) : (first = .safelinks ∨ second = .safelinks) ∧
      ∃ url host, Url.parse? link = some url ∧ url.host? = some host ∧
        first.hostPart.toList <:+: host.toList ∧ second.hostPart.toList <:+: host.toList := by
  obtain ⟨url, hp, ⟨host, hhost, hpart⟩, hpath, _⟩ := Wrapper.wraps_of_unwrap ha
  obtain ⟨url', hp', ⟨host', hhost', hpart'⟩, hpath', _⟩ := Wrapper.wraps_of_unwrap hb
  obtain rfl : url = url' := Option.some.inj (hp.symm.trans hp')
  obtain rfl : host = host' := Option.some.inj (hhost.symm.trans hhost')
  refine ⟨?_, url, host, hp, hhost, hpart, hpart'⟩
  by_contra hnot
  rw [not_or] at hnot
  have hpaths : ∀ first ∈ wrappers, ∀ second ∈ wrappers, first ≠ second → first ≠ .safelinks →
      second ≠ .safelinks → ∃ a ∈ first.path, ∃ b ∈ second.path, a ≠ b := by decide
  obtain ⟨a, ha, b, hb, hab⟩ := hpaths first hfirst second hsecond hne hnot.1 hnot.2
  exact hab ((hpath a ha).symm.trans (hpath' b hb))

theorem unwrap_trim {wrapper : Wrapper} (hmem : wrapper ∈ wrappers)
    (hend : Url.EndsPlainly link.toList) {target : String}
    (h : wrapper.unwrap? link = some target) : wrapper.unwrap? (trim link) = some target := by
  have hparts : ∀ wrapper ∈ wrappers, wrapper.hostPart.toList ≠ [] ∧
      wrapper.hostPart.toList.all (!isBlank ·) = true := by decide
  obtain ⟨hne, hall⟩ := hparts wrapper hmem
  have hblank : ∀ c ∈ wrapper.hostPart.toList, isBlank c = false := by simpa using hall
  rw [Wrapper.unwrap?] at h ⊢
  split at h
  · rename_i hpart
    obtain ⟨url, hp, hdestination⟩ := Option.bind_eq_some_iff.mp h
    have htrim : occursIn wrapper.hostPart.toList (trim link).toList = true := by
      rw [toList_trim]
      exact occursIn_iff.mpr (infix_trimChars hne hblank (occursIn_iff.mp hpart))
    rw [if_pos htrim, Url.parse_trim hp hend]
    exact hdestination
  · cases h

/-- Two rules come off the same link only at a host with the parts of both, one of them that of the
rule without a path. What a rule takes out of a link it still takes out of the trimmed link, unless
the link ends, spaces and controls apart, in white space beyond ASCII. A link comes to rest at the
same link in every order of the rules if all texts that rounds make of it are clear to them. -/
theorem sanitize_in_any_order :
    (∀ link : String, ∀ first ∈ wrappers, ∀ second ∈ wrappers, first ≠ second →
      (first.unwrap? link).isSome → (second.unwrap? link).isSome →
        (first = .safelinks ∨ second = .safelinks) ∧
          ∃ url host, Url.parse? link = some url ∧ url.host? = some host ∧
            first.hostPart.toList <:+: host.toList ∧ second.hostPart.toList <:+: host.toList) ∧
    (∀ link : String, Url.EndsPlainly link.toList → ∀ wrapper ∈ wrappers, ∀ target,
      wrapper.unwrap? link = some target → wrapper.unwrap? (trim link) = some target) ∧
    ∀ (raw : String) (order : List Wrapper), order.Perm wrappers →
      (∀ left text, Met wrappers raw left text → IsClear wrappers left text) →
        sanitizeWith order raw = sanitize raw := by
  refine ⟨fun link first hfirst second hsecond hne ha hb => ?_, ?_, ?_⟩
  · exact overlap_of_unwrap hfirst hsecond hne ha hb
  · intro link hend wrapper hmem target h
    exact unwrap_trim hmem hend h
  · intro raw order hperm hclear
    exact sanitizeWith_of_perm hperm hclear

theorem sanitize_nested_wrappers_in_reverse_order :
    let nested := "http://google.com/url?q=http://youtube.com/redirect?q=a%2520\u00A0"
    let padded := "http://youtube.com/redirect?q=a \x00\t"
    let shared := "http://google.safelinks.protection.outlook.com/url?url=a"
    sanitizeWith wrappers.reverse nested = "a" ∧
      Wrapper.youtube.unwrap? (trim padded) = some "a" ∧
      ∃ url host, Url.parse? shared = some url ∧ url.host? = some host ∧
        "google.".toList <:+: host.toList ∧
        "safelinks.protection.outlook.com".toList <:+: host.toList := by
  intro nested padded shared
  let texts := ["http://google.com/url?q=http://youtube.com/redirect?q=a%2520",
    "http://youtube.com/redirect?q=a%20", "a ", "a"]
  have hclear : ∀ left text, Met wrappers nested left text → IsClear wrappers left text := by
    have hall : ∀ text ∈ texts, IsClear wrappers wrappers text := by decide +kernel
    intro left text hmet
    have hclosed : left ⊆ wrappers ∧ text ∈ texts := by
      apply hmet.mem_of_closed
      · decide +kernel
      · decide +kernel
      · decide +kernel
    exact (hall text hclosed.2).of_subset hclosed.1
  have hsettled : sanitize nested = "a" := by decide +kernel
  refine ⟨?_, ?_, ?_⟩
  · rw [← hsettled]
    exact sanitize_in_any_order.2.2 nested _ wrappers.reverse_perm hclear
  · exact sanitize_in_any_order.2.1 padded (by decide +kernel) .youtube (by decide) "a"
      (by decide +kernel)
  · exact (sanitize_in_any_order.1 shared .google (by decide) .safelinks (by decide) (by decide)
      (by decide +kernel) (by decide +kernel)).2

/-- A host with the parts of two rules, and a destination that is trimmed only after the round. -/
theorem order_of_rules_decides :
    let shared := "https://google.safelinks.protection.outlook.com/url?q=http://a/&url=http://b/"
    let blank := "http://google.com/url?q=http://youtube.com/redirect?q=%E2%80%83"
    wrappers.reverse.Perm wrappers ∧
      Wrapper.google.unwrap? shared = some "http://a/" ∧
      Wrapper.safelinks.unwrap? shared = some "http://b/" ∧
      sanitizeWith wrappers.reverse shared = "http://b/" ∧ sanitize shared = "http://a/" ∧
      sanitizeWith wrappers.reverse blank = "http://youtube.com/redirect?q=" ∧
      sanitize blank = "" := by
  refine ⟨wrappers.reverse_perm, ?_, ?_, ?_, ?_, ?_, ?_⟩
  all_goals decide +kernel

end Permalink
