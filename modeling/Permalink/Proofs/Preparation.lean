import Permalink.Proofs.Tracking
import Permalink.Proofs.Wrapper.Hidden

set_option autoImplicit false

/-!
Sanitizing and dropping tracking parameters each change a link only once. Together they do not:
dropping tracking parameters writes the host as it was parsed, and so spells out a wrapper that
sanitizing did not find in the text. This is the only way in which a prepared link changes again.
-/

namespace Permalink
open Text

namespace Wrapper

theorem isTracking_params {wrapper : Wrapper} (h : wrapper ∈ wrappers) :
    ∀ name ∈ wrapper.params, Tracking.isTracking name.toList = false := by
  have hall : wrappers.all (fun wrapper =>
      wrapper.params.all fun name => !Tracking.isTracking name.toList) = true := by decide
  simpa using List.all_eq_true.mp hall wrapper h

/-- No wrapper keeps its destination in a tracking parameter. -/
theorem destination_strip {wrapper : Wrapper} (h : wrapper ∈ wrappers) (url : Url) :
    wrapper.destination? (Tracking.strip url) = wrapper.destination? url := by
  obtain ⟨_, hauthority, hpath, _⟩ := Tracking.parts_strip url
  have hcovers : wrapper.covers (Tracking.strip url) = wrapper.covers url := by
    rw [covers, Url.host?, Url.pathText, hauthority, hpath]
    rfl
  have hparams : wrapper.params.findSome? (Tracking.strip url).param? =
      wrapper.params.findSome? url.param? :=
    findSome_congr fun name hname => Tracking.param_strip (isTracking_params h name hname) url
  rw [destination?, hcovers, hparams, destination?]

end Wrapper

section Stripped
variable {link : String} {url stripped : Url}

theorem settled_text_iff (hurl : Url.parse? link = some url)
    (h : Tracking.stripUrl? url = some stripped) :
    Settled wrappers stripped.text ↔ ∀ wrapper ∈ wrappers, ¬ wrapper.Wraps url := by
  obtain ⟨_, hnormal, _, _⟩ := Tracking.stripTracking_of_some hurl h
  have hstrip : Tracking.strip url = stripped := by rw [Tracking.strip, h, Option.getD_some]
  have hbare {wrapper : Wrapper} (hmem : wrapper ∈ wrappers) :
      wrapper.unwrap? stripped.text = none ↔ ¬ wrapper.Wraps url := by
    rw [← Option.not_isSome_iff_eq_none, Wrapper.unwrap_text hnormal, Wrapper.wraps_iff, ← hstrip,
      Wrapper.destination_strip hmem]
  exact ⟨fun hs wrapper hmem => (hbare hmem).mp (hs.bare wrapper hmem),
    fun hnone => ⟨hnormal.trim_text, fun wrapper hmem => (hbare hmem).mpr (hnone wrapper hmem)⟩⟩

/-- A link that gives the URL back would be longer than the destination that sanitizing left. -/
theorem stripTracking_sanitize_ne (hurl : Url.parse? link = some url)
    (h : Tracking.stripUrl? url = some stripped) (hs : ¬ Settled wrappers stripped.text) :
    stripTracking (sanitize stripped.text) ≠ stripped.text := by
  obtain ⟨_, hnormal, hparse, _⟩ := Tracking.stripTracking_of_some hurl h
  obtain ⟨wrapper, hmem, target, htarget, hle⟩ :=
    exists_target_of_sanitizeWith hnormal.trim_text hs
  intro hback
  have hread := Tracking.parse_stripTracking (sanitize stripped.text)
  rw [hback, hparse] at hread
  obtain ⟨found, hfound, hstrip⟩ := Option.map_eq_some_iff.mp hread.symm
  have hdestination : wrapper.destination? found = some target := by
    rw [← Wrapper.destination_strip hmem, hstrip, ← Wrapper.unwrap_text hnormal]
    exact htarget
  have hlt := Wrapper.utf8ByteSize_destination_lt hfound hdestination
  have hsize : (sanitize stripped.text).utf8ByteSize ≤ target.utf8ByteSize := hle
  omega

end Stripped

theorem sanitize_sanitize (raw : String) : sanitize (sanitize raw) = sanitize raw :=
  sanitizeWith_eq_self_iff.mpr (sanitizeWith_settled wrappers raw)

/-- The sanitized link still has a wrapper, and a tracking parameter to drop. -/
def HidesWrapper (input : String) : Prop :=
  ∃ url, Url.parse? (sanitize input) = some url ∧ (Tracking.stripUrl? url).isSome ∧
    ∃ wrapper ∈ wrappers, wrapper.Wraps url

theorem stripTracking_sanitize_iff (input : String) :
    stripTracking (sanitize (stripTracking (sanitize input))) = stripTracking (sanitize input) ↔
      ¬ HidesWrapper input := by
  cases h : (Url.parse? (sanitize input)).bind Tracking.stripUrl? with
  | none =>
    rw [Tracking.stripTracking_of_none h, sanitize_sanitize, Tracking.stripTracking_of_none h]
    refine iff_of_true rfl ?_
    rintro ⟨url, hurl, hstrip, _⟩
    rw [hurl, Option.bind_some] at h
    rw [h] at hstrip
    cases hstrip
  | some stripped =>
    obtain ⟨url, hurl, hstrip⟩ := Option.bind_eq_some_iff.mp h
    obtain ⟨htext, _, _, hagain⟩ := Tracking.stripTracking_of_some hurl hstrip
    have hwrapper : HidesWrapper input ↔ ¬ Settled wrappers stripped.text := by
      rw [settled_text_iff hurl hstrip, HidesWrapper, hurl]
      simp [hstrip]
    rw [htext, hwrapper, not_not]
    constructor
    · intro hback
      by_contra hs
      exact stripTracking_sanitize_ne hurl hstrip hs hback
    · intro hs
      have hrest : sanitize stripped.text = stripped.text := sanitizeWith_eq_self_iff.mpr hs
      rw [hrest, hagain]

theorem prepare_prepare_iff (settings : Settings) (input : String) :
    settings.prepare (settings.prepare input) = settings.prepare input ↔
      ¬ (settings.sanitize = true ∧ settings.stripTracking = true ∧ HidesWrapper input) := by
  obtain ⟨format, clean, strip⟩ := settings
  cases clean <;> cases strip <;> simp only [Settings.prepare, if_true, if_false, Bool.false_eq_true]
  case false.false => simp
  case false.true => simp [Tracking.stripTracking_stripTracking]
  case true.false => simp [sanitize_sanitize]
  case true.true => simp [stripTracking_sanitize_iff]

theorem with_input_eq_iff {other input again url : String} :
    { Report.ofResource other again (classify? again) with input := input } =
      Report.ofResource input url (classify? url) ↔ again = url := by
  constructor
  · exact fun h => congrArg Report.url h
  · rintro rfl
    rfl

/-- A report on the URL of a report is the same but for its input, unless both stages are on and the
second one spells out a wrapper that the first one did not find. -/
theorem report_of_prepared_iff (settings : Settings) (input : String) :
    { Report.ofInput settings (Report.ofInput settings input).url with input := input } =
        Report.ofInput settings input ↔
      ¬ (settings.sanitize = true ∧ settings.stripTracking = true ∧ HidesWrapper input) := by
  rw [← prepare_prepare_iff]
  exact with_input_eq_iff

theorem stripping_spells_upper_case_wrapper :
    (Report.ofInput ⟨.text, true, true⟩
        "https://WWW.GOOGLE.COM/url?q=https://real.site/x&utm_source=a").url =
      "https://www.google.com/url?q=https://real.site/x" ∧
    (Report.ofInput ⟨.text, true, true⟩ "https://www.google.com/url?q=https://real.site/x").url =
      "https://real.site/x" := by
  decide +kernel

end Permalink
