import Permalink.Proofs.Text.Strict
import Permalink.Settings

set_option autoImplicit false

namespace Permalink
open Text

/-- A variable that is absent, or holds one of the words in any case. -/
def IsUsable (words : List String) (bytes : Option (List UInt8)) : Prop :=
  ∀ value : String, value ≠ "" → bytes = some (Utf8.encode value.toList) →
    Unicode.lowercase value ∈ words

structure Environment.IsValid (environment : Environment) : Prop where
  format : IsUsable ["text", "json"] environment.format
  sanitize : IsUsable ["true", "1", "yes", "on", "false", "0", "no", "off"] environment.sanitize
  stripTracking :
    IsUsable ["true", "1", "yes", "on", "false", "0", "no", "off"] environment.stripTracking

namespace Settings

theorem value_eq_some_iff {bytes : Option (List UInt8)} {value : String} :
    value? bytes = some value ↔ value ≠ "" ∧ bytes = some (Utf8.encode value.toList) := by
  simp only [value?, Option.bind_eq_some_iff, Utf8.decode_eq_some_iff]
  refine ⟨?_, fun ⟨hne, hbytes⟩ => ⟨value.toList, ⟨_, hbytes, rfl⟩, by simpa using hne⟩⟩
  rintro ⟨cs, ⟨_, rfl, rfl⟩, h⟩
  split at h
  · cases h
  · cases h
    simp_all

variable {α : Type} {read : String → Except SettingsError α} {words : List String}

theorem readOr_ok_iff (h : ∀ value, (∃ a, read value = .ok a) ↔ Unicode.lowercase value ∈ words)
    {initial : α} {bytes : Option (List UInt8)} :
    (∃ a, readOr read initial bytes = .ok a) ↔ IsUsable words bytes := by
  unfold readOr IsUsable
  simp only [← h, ← and_imp, ← value_eq_some_iff]
  cases value? bytes <;> simp

theorem ofText_ok_iff (value : String) :
    (∃ format, Format.ofText value = .ok format) ↔
      Unicode.lowercase value ∈ ["text", "json"] := by
  unfold Format.ofText
  split <;> simp_all

theorem boolOfText_ok_iff (name value : String) :
    (∃ b, boolOfText name value = .ok b) ↔
      Unicode.lowercase value ∈ ["true", "1", "yes", "on", "false", "0", "no", "off"] := by
  change _ ↔ Unicode.lowercase value ∈ truths ++ falsehoods
  rw [List.mem_append, ← List.contains_iff_mem, ← List.contains_iff_mem, boolOfText]
  cases truths.contains (Unicode.lowercase value) <;>
    cases falsehoods.contains (Unicode.lowercase value) <;> simp

theorem ofEnvironment_eq_ok_iff {environment : Environment} {settings : Settings} :
    ofEnvironment environment = .ok settings ↔
      readOr Format.ofText initial.format environment.format = .ok settings.format ∧
      readOr (boolOfText sanitizeVariable) initial.sanitize environment.sanitize =
        .ok settings.sanitize ∧
      readOr (boolOfText stripTrackingVariable) initial.stripTracking environment.stripTracking =
        .ok settings.stripTracking := by
  unfold ofEnvironment
  obtain ⟨format, sanitize, stripTracking⟩ := settings
  cases readOr Format.ofText initial.format environment.format <;>
    cases readOr (boolOfText sanitizeVariable) initial.sanitize environment.sanitize <;>
    cases readOr (boolOfText stripTrackingVariable) initial.stripTracking
      environment.stripTracking <;>
    simp [bind, Except.bind, pure, Except.pure]

theorem exists_ofEnvironment_iff {environment : Environment} :
    (∃ settings, ofEnvironment environment = .ok settings) ↔ environment.IsValid := by
  simp only [ofEnvironment_eq_ok_iff]
  refine ⟨fun ⟨settings, hformat, hsanitize, hstrip⟩ => ?_, fun h => ?_⟩
  · exact ⟨(readOr_ok_iff ofText_ok_iff).mp ⟨_, hformat⟩,
      (readOr_ok_iff (boolOfText_ok_iff _)).mp ⟨_, hsanitize⟩,
      (readOr_ok_iff (boolOfText_ok_iff _)).mp ⟨_, hstrip⟩⟩
  · obtain ⟨format, hformat⟩ := (readOr_ok_iff ofText_ok_iff).mpr h.format
    obtain ⟨sanitize, hsanitize⟩ := (readOr_ok_iff (boolOfText_ok_iff _)).mpr h.sanitize
    obtain ⟨stripTracking, hstrip⟩ := (readOr_ok_iff (boolOfText_ok_iff _)).mpr h.stripTracking
    exact ⟨⟨format, sanitize, stripTracking⟩, hformat, hsanitize, hstrip⟩

end Settings
end Permalink
