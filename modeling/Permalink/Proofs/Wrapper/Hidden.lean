import Permalink.Proofs.Url.Normal
import Permalink.Proofs.Wrapper.Settle

set_option autoImplicit false

namespace Permalink
open Text

/-- The URL is a wrapped link with a destination, told by its host, its path and its parameters. -/
def Wrapper.Wraps (wrapper : Wrapper) (url : Url) : Prop :=
  (∃ host, url.host? = some host ∧ wrapper.hostPart.toList <:+: host.toList) ∧
    (∀ path, wrapper.path = some path → url.pathText = path) ∧
    ∃ query, url.query = some query ∧ ∃ name ∈ wrapper.params, ∃ value,
      value ≠ [] ∧ (name.toList, value) ∈ Url.Form.pairs query

theorem Url.param_isSome_iff {url : Url} {name : String} :
    (url.param? name).isSome ↔ ∃ query, url.query = some query ∧ ∃ value,
      value ≠ [] ∧ (name.toList, value) ∈ Form.pairs query := by
  rw [Url.param?, Option.isSome_map]
  cases hq : url.query with
  | none => simp
  | some query => simpa using Form.value_isSome_iff

theorem Wrapper.covers_iff {wrapper : Wrapper} {url : Url} : wrapper.covers url = true ↔
    (∃ host, url.host? = some host ∧ wrapper.hostPart.toList <:+: host.toList) ∧
      ∀ path, wrapper.path = some path → url.pathText = path := by
  rw [Wrapper.covers, Bool.and_eq_true]
  refine and_congr ?_ ?_
  · cases url.host? with
    | none => simp
    | some host => simpa using occursIn_iff
  · cases wrapper.path with
    | none => simp
    | some path =>
      rw [Option.all_some, beq_iff_eq]
      exact ⟨fun h p hp => h ▸ Option.some.inj hp, fun h => (h path rfl).symm⟩

theorem Wrapper.wraps_iff {wrapper : Wrapper} {url : Url} :
    wrapper.Wraps url ↔ (wrapper.destination? url).isSome := by
  have hparams : (wrapper.params.findSome? url.param?).isSome ↔ ∃ query, url.query = some query ∧
      ∃ name ∈ wrapper.params, ∃ value,
        value ≠ [] ∧ (name.toList, value) ∈ Url.Form.pairs query := by
    rw [List.findSome?_isSome_iff]
    constructor
    · rintro ⟨name, hname, hsome⟩
      obtain ⟨query, hq, value⟩ := Url.param_isSome_iff.mp hsome
      exact ⟨query, hq, name, hname, value⟩
    · rintro ⟨query, hq, name, hname, value⟩
      exact ⟨name, hname, Url.param_isSome_iff.mpr ⟨query, hq, value⟩⟩
  by_cases hc : wrapper.covers url = true
  · have hplace := Wrapper.covers_iff.mp hc
    rw [Wrapper.destination?, if_pos hc, hparams, Wrapper.Wraps]
    exact ⟨fun h => h.2.2, fun h => ⟨hplace.1, hplace.2, h⟩⟩
  · rw [Wrapper.destination?, if_neg hc]
    refine ⟨fun h => absurd (Wrapper.covers_iff.mpr ⟨h.1, h.2.1⟩) hc, fun h => ?_⟩
    cases h

variable {wrapper : Wrapper} {link : String} {url : Url}

/-- A wrapper comes off where both the URL and the spelling of the link show it. -/
theorem Wrapper.unwrap_isSome_iff (hp : Url.parse? link = some url) :
    (wrapper.unwrap? link).isSome ↔
      wrapper.hostPart.toList <:+: link.toList ∧ wrapper.Wraps url := by
  rw [Wrapper.wraps_iff, Wrapper.unwrap?, ← occursIn_iff, hp]
  split
  · rename_i h
    simp [h]
  · rename_i h
    simp [h]

theorem Wrapper.unwrap_text (h : url.IsNormal) :
    wrapper.unwrap? url.text = wrapper.destination? url := by
  rw [Wrapper.unwrap?, h.parse_text]
  split
  · rfl
  · rename_i hpart
    rw [Wrapper.destination?, if_neg]
    intro hcovers
    obtain ⟨host, hhost, hspelled⟩ := (Wrapper.covers_iff.mp hcovers).1
    exact hpart (occursIn_iff.mpr (hspelled.trans (Url.host_infix_text hhost)))

theorem Settled.not_spelled {rules : List Wrapper} (hs : Settled rules link)
    (hp : Url.parse? link = some url) (hmem : wrapper ∈ rules) (hw : wrapper.Wraps url) :
    ¬ wrapper.hostPart.toList <:+: link.toList := by
  intro hpart
  have hsome := (Wrapper.unwrap_isSome_iff hp).mpr ⟨hpart, hw⟩
  rw [hs.bare wrapper hmem] at hsome
  cases hsome

/-- A sanitized link is free of wrappers exactly if it spells the host part of each wrapper that its
URL has, and so in particular if it spells its host as the URL has it. -/
theorem sanitized_has_no_wrapper_iff {raw : String} {url : Url}
    (h : Url.parse? (sanitize raw) = some url) :
    ((∀ wrapper ∈ wrappers, ¬ wrapper.Wraps url) ↔
        ∀ wrapper ∈ wrappers, wrapper.Wraps url →
          wrapper.hostPart.toList <:+: (sanitize raw).toList) ∧
      ((∀ host, url.host? = some host → host.toList <:+: (sanitize raw).toList) →
        ∀ wrapper ∈ wrappers, ¬ wrapper.Wraps url) := by
  have hs : Settled wrappers (sanitize raw) := sanitizeWith_settled wrappers raw
  refine ⟨⟨fun hnone wrapper hmem hw => absurd hw (hnone wrapper hmem), ?_⟩, ?_⟩
  · intro hspelled wrapper hmem hw
    exact hs.not_spelled h hmem hw (hspelled wrapper hmem hw)
  · intro hspelled wrapper hmem hw
    obtain ⟨host, hhost, hpart⟩ := hw.1
    exact hs.not_spelled h hmem hw (hpart.trans (hspelled host hhost))

theorem sanitized_destination_has_no_wrapper :
    ∃ url, Url.parse? (sanitize "https://www.google.com/url?q=HTTPS://real.site/x") = some url ∧
      url.host? = some "real.site" ∧ ∀ wrapper ∈ wrappers, ¬ wrapper.Wraps url := by
  have hread : (Url.parse? (sanitize "https://www.google.com/url?q=HTTPS://real.site/x")).map
      (·.host?) = some (some "real.site") := by decide +kernel
  obtain ⟨url, hp, hhost⟩ := Option.map_eq_some_iff.mp hread
  refine ⟨url, hp, hhost, (sanitized_has_no_wrapper_iff hp).2 ?_⟩
  intro host hh
  rw [hhost, Option.some.injEq] at hh
  rw [← hh, ← occursIn_iff]
  decide +kernel

theorem upper_case_host_hides_wrapper :
    ∃ url, Url.parse? (sanitize "https://WWW.GOOGLE.COM/url?q=https://real.site/x") = some url ∧
      ∃ wrapper ∈ wrappers, wrapper.Wraps url := by
  have hread : ((Url.parse? (sanitize "https://WWW.GOOGLE.COM/url?q=https://real.site/x")).bind
      Wrapper.google.destination?) = some "https://real.site/x" := by decide +kernel
  obtain ⟨url, hp, hdestination⟩ := Option.bind_eq_some_iff.mp hread
  exact ⟨url, hp, .google, by simp [wrappers], Wrapper.wraps_iff.mpr (by rw [hdestination]; rfl)⟩

end Permalink
