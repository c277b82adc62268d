import Permalink.Proofs.Settings
import Permalink.Proofs.Unicode.Lowercase

set_option autoImplicit false

namespace Permalink.Settings
open Text

/-- A variable that is unset, empty or not UTF-8. -/
def IsAbsent (bytes : Option (List UInt8)) : Prop :=
  bytes = none ∨ bytes = some [] ∨ ∃ bs, bytes = some bs ∧ ¬ Utf8.IsUtf8 bs

def Holds (bytes : Option (List UInt8)) (value : String) : Prop :=
  value ≠ "" ∧ bytes = some (Utf8.encode value.toList)

/-- The text is the word, but for the case of ASCII letters. -/
def Spells (value word : String) : Prop := value.toList.map Char.toLower = word.toList

instance (value word : String) : Decidable (Spells value word) :=
  inferInstanceAs (Decidable (_ = _))

def formatWords : List (String × Format) := [("text", .text), ("json", .json)]

def boolWords : List (String × Bool) :=
  [("true", true), ("1", true), ("yes", true), ("on", true),
    ("false", false), ("0", false), ("no", false), ("off", false)]

section Words
variable {α : Type} (words : List (String × α))

def Means (value : String) (a : α) : Prop := ∃ word, (word, a) ∈ words ∧ Spells value word

/-- A variable that is absent or holds one of the words. -/
def HoldsWord (words : List String) (bytes : Option (List UInt8)) : Prop :=
  ∀ value, Holds bytes value → ∃ word ∈ words, Spells value word

def IsBad (bytes : Option (List UInt8)) (value : String) : Prop :=
  Holds bytes value ∧ ¬ ∃ a, Means words value a

/-- What a variable sets: its default if it is absent, else what its word means. -/
inductive Sets (default : α) (bytes : Option (List UInt8)) : α → Prop where
  | absent : IsAbsent bytes → Sets default bytes default
  | word {value : String} {a : α} : Holds bytes value → Means words value a → Sets default bytes a

end Words

inductive FirstError (environment : Environment) : SettingsError → Prop where
  | format {value : String} : IsBad formatWords environment.format value →
      FirstError environment (.unknownFormat value)
  | sanitize {value : String} : (∀ other, ¬ IsBad formatWords environment.format other) →
      IsBad boolWords environment.sanitize value →
      FirstError environment (.notBoolean "LINKVIEW_SANITIZE" value)
  | stripTracking {value : String} : (∀ other, ¬ IsBad formatWords environment.format other) →
      (∀ other, ¬ IsBad boolWords environment.sanitize other) →
      IsBad boolWords environment.stripTracking value →
      FirstError environment (.notBoolean "LINKVIEW_STRIP_TRACKING" value)

section Value
variable {bytes : Option (List UInt8)} {value : String}

theorem holds_iff : Holds bytes value ↔ value? bytes = some value := value_eq_some_iff.symm

theorem isAbsent_iff : IsAbsent bytes ↔ value? bytes = none := by
  cases bytes with
  | none => simp [IsAbsent, value?]
  | some bs =>
    by_cases hutf8 : Utf8.IsUtf8 bs
    · obtain ⟨cs, rfl⟩ := hutf8
      simp [IsAbsent, value?, Utf8.decode_encode, Utf8.encode_eq_nil_iff, Utf8.IsUtf8]
    · have hread : Utf8.decode? bs = none := by
        rwa [Utf8.isUtf8_iff, Bool.not_eq_true, Option.isSome_eq_false_iff,
          Option.isNone_iff_eq_none] at hutf8
      simp [IsAbsent, value?, hread, hutf8]

end Value

section Words
variable {α : Type} {words : List (String × α)} {value : String} {a : α}

theorem exists_means_iff :
    (∃ a, Means words value a) ↔ ∃ word ∈ words.map (·.1), Spells value word := by
  simp only [Means, List.mem_map, Prod.exists]
  constructor
  · rintro ⟨a, word, hmem, hspells⟩
    exact ⟨word, ⟨word, a, hmem, rfl⟩, hspells⟩
  · rintro ⟨_, ⟨word, a, hmem, rfl⟩, hspells⟩
    exact ⟨a, word, hmem, hspells⟩

/-- Words to which lowering by Unicode rules brings no text that is not ASCII. -/
def ArePlain (words : List String) : Prop :=
  ∀ word ∈ words, ∀ c ∈ word.toList, Unicode.isForeign c.toNat = false

theorem arePlain_of_all {words : List String}
    (h : words.all (fun word => word.toList.all fun c => !Unicode.isForeign c.toNat) = true) :
    ArePlain words := by
  simpa [ArePlain] using h

theorem formatWords_arePlain : ArePlain (formatWords.map (·.1)) := arePlain_of_all (by decide)

theorem boolWords_arePlain : ArePlain (boolWords.map (·.1)) := arePlain_of_all (by decide)

theorem Spells.ascii {words : List String} (hwords : ArePlain words) {word : String}
    (hmem : word ∈ words) (h : Spells value word) : ∀ c ∈ value.toList, c.toNat < 0x80 :=
  Unicode.ascii_of_map_toLower h (hwords word hmem)

theorem lowercase_mem_iff {words : List String} (hwords : ArePlain words) :
    Unicode.lowercase value ∈ words ↔ ∃ word ∈ words, Spells value word := by
  constructor
  · exact fun hmem => ⟨_, hmem, (Unicode.lowercase_eq_iff (hwords _ hmem)).mp rfl⟩
  · rintro ⟨word, hmem, hspells⟩
    rwa [(Unicode.lowercase_eq_iff (hwords word hmem)).mpr hspells]

theorem means_iff (hwords : ArePlain (words.map (·.1))) :
    Means words value a ↔ (Unicode.lowercase value, a) ∈ words := by
  have hplain {word : String} (hmem : (word, a) ∈ words) :=
    hwords word (List.mem_map_of_mem (f := (·.1)) hmem)
  constructor
  · rintro ⟨word, hmem, hspells⟩
    rwa [(Unicode.lowercase_eq_iff (hplain hmem)).mpr hspells]
  · exact fun hmem => ⟨_, hmem, (Unicode.lowercase_eq_iff (hplain hmem)).mp rfl⟩

/-- A reader of a variable knows its words, and its error holds the text it was given. -/
structure Knows (words : List (String × α)) (read : String → Except SettingsError α)
    (error : String → SettingsError) : Prop where
  ok : ∀ value a, read value = .ok a ↔ Means words value a
  error : ∀ value e, read value = .error e → e = error value

theorem knows_formatWords : Knows formatWords Format.ofText .unknownFormat := by
  constructor
  · intro value format
    rw [means_iff formatWords_arePlain, Format.ofText]
    generalize Unicode.lowercase value = word
    split
    · simp [formatWords, eq_comm]
    · simp [formatWords, eq_comm]
    · rename_i htext hjson
      simp [formatWords, mt htext, mt hjson]
  · intro value e h
    unfold Format.ofText at h
    split at h
    · cases h
    · cases h
    · exact (Except.error.inj h).symm

theorem mem_boolWords_iff {word : String} {b : Bool} : (word, b) ∈ boolWords ↔
    b = true ∧ truths.contains word = true ∨ b = false ∧ falsehoods.contains word = true := by
  cases b <;> simp [boolWords, truths, falsehoods]

theorem knows_boolWords (name : String) :
    Knows boolWords (boolOfText name) (.notBoolean name) := by
  constructor
  · intro value b
    rw [means_iff boolWords_arePlain, mem_boolWords_iff, boolOfText]
    generalize Unicode.lowercase value = word
    -- No word is both true and false.
    have hdisjoint : truths.contains word = true → falsehoods.contains word = false := by
      simp only [truths, falsehoods, List.contains_eq_mem, decide_eq_true_eq, List.mem_cons,
        List.not_mem_nil, or_false]
      rintro (rfl | rfl | rfl | rfl) <;> decide
    cases ht : truths.contains word with
    | true => cases b <;> simp only [hdisjoint ht] <;> simp
    | false => cases hf : falsehoods.contains word <;> simp [eq_comm]
  · intro value e h
    unfold boolOfText at h
    split at h
    · cases h
    split at h
    · cases h
    · exact (Except.error.inj h).symm

end Words

section Variable
variable {α : Type} {words : List (String × α)} {read : String → Except SettingsError α}
  {error : String → SettingsError} {default a : α} {bytes : Option (List UInt8)}

theorem readOr_eq_ok_iff (h : Knows words read error) :
    readOr read default bytes = .ok a ↔ Sets words default bytes a := by
  constructor
  · intro hread
    unfold readOr at hread
    split at hread
    · rename_i hnone
      obtain rfl := Except.ok.inj hread
      exact .absent (isAbsent_iff.mpr hnone)
    · rename_i value hvalue
      exact .word (holds_iff.mpr hvalue) ((h.ok value a).mp hread)
  · rintro (habsent | ⟨hholds, hmeans⟩)
    · rw [readOr, isAbsent_iff.mp habsent]
    · rw [readOr, holds_iff.mp hholds]
      exact (h.ok _ a).mpr hmeans

theorem readOr_eq_error_iff (h : Knows words read error) {e : SettingsError} :
    readOr read default bytes = .error e ↔ ∃ value, IsBad words bytes value ∧ e = error value := by
  constructor
  · intro hread
    unfold readOr at hread
    split at hread
    · cases hread
    · rename_i value hvalue
      refine ⟨value, ⟨holds_iff.mpr hvalue, ?_⟩, h.error value e hread⟩
      rintro ⟨a, hmeans⟩
      rw [(h.ok value a).mpr hmeans] at hread
      cases hread
  · rintro ⟨value, ⟨hholds, hnot⟩, rfl⟩
    rw [readOr, holds_iff.mp hholds]
    cases hread : read value with
    | ok a => exact absurd ⟨a, (h.ok value a).mp hread⟩ hnot
    | error e => rw [← h.error value e hread]; exact hread

theorem exists_readOr_iff (h : Knows words read error) :
    (∃ a, readOr read default bytes = .ok a) ↔ ∀ value, ¬ IsBad words bytes value := by
  constructor
  · rintro ⟨a, hok⟩ value hbad
    have herror : readOr read default bytes = .error (error value) :=
      (readOr_eq_error_iff h).mpr ⟨value, hbad, rfl⟩
    rw [hok] at herror
    cases herror
  · intro hgood
    cases hread : readOr read default bytes with
    | ok a => exact ⟨a, rfl⟩
    | error e =>
      obtain ⟨value, hbad, _⟩ := (readOr_eq_error_iff h).mp hread
      exact absurd hbad (hgood value)

end Variable

variable {environment : Environment} {settings : Settings} {error : SettingsError}

theorem ofEnvironment_eq_ok_iff_sets : ofEnvironment environment = .ok settings ↔
    Sets formatWords .text environment.format settings.format ∧
      Sets boolWords true environment.sanitize settings.sanitize ∧
      Sets boolWords false environment.stripTracking settings.stripTracking := by
  rw [ofEnvironment_eq_ok_iff, readOr_eq_ok_iff knows_formatWords,
    readOr_eq_ok_iff (knows_boolWords _), readOr_eq_ok_iff (knows_boolWords _)]
  rfl

theorem ofEnvironment_eq_error_iff : ofEnvironment environment = .error error ↔
    readOr Format.ofText initial.format environment.format = .error error ∨
    (∃ format, readOr Format.ofText initial.format environment.format = .ok format) ∧
      (readOr (boolOfText sanitizeVariable) initial.sanitize environment.sanitize = .error error ∨
      (∃ sanitize, readOr (boolOfText sanitizeVariable) initial.sanitize environment.sanitize =
          .ok sanitize) ∧
        readOr (boolOfText stripTrackingVariable) initial.stripTracking environment.stripTracking =
          .error error) := by
  unfold ofEnvironment
  cases readOr Format.ofText initial.format environment.format <;>
    cases readOr (boolOfText sanitizeVariable) initial.sanitize environment.sanitize <;>
    cases readOr (boolOfText stripTrackingVariable) initial.stripTracking
      environment.stripTracking <;>
    simp [bind, Except.bind, pure, Except.pure]

theorem ofEnvironment_eq_error_iff_firstError :
    ofEnvironment environment = .error error ↔ FirstError environment error := by
  rw [ofEnvironment_eq_error_iff, exists_readOr_iff knows_formatWords,
    exists_readOr_iff (knows_boolWords _), readOr_eq_error_iff knows_formatWords,
    readOr_eq_error_iff (knows_boolWords _), readOr_eq_error_iff (knows_boolWords _)]
  constructor
  · rintro (⟨value, hbad, rfl⟩ | ⟨hformat, ⟨value, hbad, rfl⟩ | ⟨hsanitize, value, hbad, rfl⟩⟩)
    · exact .format hbad
    · exact .sanitize hformat hbad
    · exact .stripTracking hformat hsanitize hbad
  · rintro (hbad | ⟨hformat, hbad⟩ | ⟨hformat, hsanitize, hbad⟩)
    · exact .inl ⟨_, hbad, rfl⟩
    · exact .inr ⟨hformat, .inl ⟨_, hbad, rfl⟩⟩
    · exact .inr ⟨hformat, .inr ⟨hsanitize, _, hbad, rfl⟩⟩

theorem isUsable_iff {words : List String} (hwords : ArePlain words)
    {bytes : Option (List UInt8)} : IsUsable words bytes ↔ HoldsWord words bytes := by
  simp only [IsUsable, HoldsWord, Holds, and_imp, lowercase_mem_iff hwords]

theorem isValid_iff : environment.IsValid ↔
    HoldsWord ["text", "json"] environment.format ∧
      HoldsWord ["true", "1", "yes", "on", "false", "0", "no", "off"] environment.sanitize ∧
      HoldsWord ["true", "1", "yes", "on", "false", "0", "no", "off"]
        environment.stripTracking := by
  constructor
  · rintro ⟨hformat, hsanitize, hstrip⟩
    exact ⟨(isUsable_iff formatWords_arePlain).mp hformat,
      (isUsable_iff boolWords_arePlain).mp hsanitize, (isUsable_iff boolWords_arePlain).mp hstrip⟩
  · rintro ⟨hformat, hsanitize, hstrip⟩
    exact ⟨(isUsable_iff formatWords_arePlain).mpr hformat,
      (isUsable_iff boolWords_arePlain).mpr hsanitize,
      (isUsable_iff boolWords_arePlain).mpr hstrip⟩

/-- An environment can be used exactly if each variable is absent or holds one of its words, which
is then ASCII. Each setting comes from its own variable, and the first bad variable is reported. -/
theorem settings_follow_words (environment : Environment) :
    ((∃ settings, ofEnvironment environment = .ok settings) ↔
      HoldsWord ["text", "json"] environment.format ∧
        HoldsWord ["true", "1", "yes", "on", "false", "0", "no", "off"] environment.sanitize ∧
        HoldsWord ["true", "1", "yes", "on", "false", "0", "no", "off"]
          environment.stripTracking) ∧
    (∀ settings, ofEnvironment environment = .ok settings →
      ∀ bytes ∈ [environment.format, environment.sanitize, environment.stripTracking],
        ∀ value, Holds bytes value → ∀ c ∈ value.toList, c.toNat < 0x80) ∧
    (∀ settings, ofEnvironment environment = .ok settings ↔
      Sets formatWords .text environment.format settings.format ∧
        Sets boolWords true environment.sanitize settings.sanitize ∧
        Sets boolWords false environment.stripTracking settings.stripTracking) ∧
    (∀ other settings others, ofEnvironment environment = .ok settings →
      ofEnvironment other = .ok others →
        (environment.format = other.format → settings.format = others.format) ∧
        (environment.sanitize = other.sanitize → settings.sanitize = others.sanitize) ∧
        (environment.stripTracking = other.stripTracking →
          settings.stripTracking = others.stripTracking)) ∧
    ∀ error, ofEnvironment environment = .error error ↔ FirstError environment error := by
  have hvalid : (∃ settings, ofEnvironment environment = .ok settings) ↔ _ :=
    exists_ofEnvironment_iff.trans isValid_iff
  refine ⟨hvalid, fun settings hok bytes hbytes value hholds => ?_,
    fun _ => ofEnvironment_eq_ok_iff_sets, fun other settings others hok hother => ?_,
    fun _ => ofEnvironment_eq_error_iff_firstError⟩
  · obtain ⟨hformat, hsanitize, hstrip⟩ := hvalid.mp ⟨settings, hok⟩
    simp only [List.mem_cons, List.not_mem_nil, or_false] at hbytes
    rcases hbytes with rfl | rfl | rfl
    · obtain ⟨word, hmem, hspells⟩ := hformat value hholds
      exact hspells.ascii formatWords_arePlain hmem
    · obtain ⟨word, hmem, hspells⟩ := hsanitize value hholds
      exact hspells.ascii boolWords_arePlain hmem
    · obtain ⟨word, hmem, hspells⟩ := hstrip value hholds
      exact hspells.ascii boolWords_arePlain hmem
  · obtain ⟨hformat, hsanitize, hstrip⟩ := ofEnvironment_eq_ok_iff.mp hok
    obtain ⟨oformat, osanitize, ostrip⟩ := ofEnvironment_eq_ok_iff.mp hother
    exact ⟨fun h => Except.ok.inj (hformat.symm.trans (h ▸ oformat)),
      fun h => Except.ok.inj (hsanitize.symm.trans (h ▸ osanitize)),
      fun h => Except.ok.inj (hstrip.symm.trans (h ▸ ostrip))⟩

/-- Words in mixed case, and bytes that are not UTF-8. -/
def mixedEnvironment : Environment :=
  ⟨some (Utf8.encode "JsOn".toList), some [0xFF], some (Utf8.encode "oN".toList)⟩

def foreignEnvironment : Environment :=
  ⟨none, some (Utf8.encode "Oui".toList), some (Utf8.encode "nein".toList)⟩

theorem settings_of_mixed_and_foreign_words :
    ofEnvironment mixedEnvironment = .ok ⟨.json, true, true⟩ ∧
      ofEnvironment foreignEnvironment = .error (.notBoolean "LINKVIEW_SANITIZE" "Oui") := by
  obtain ⟨-, -, hsets, -, -⟩ := settings_follow_words mixedEnvironment
  obtain ⟨-, -, -, -, herror⟩ := settings_follow_words foreignEnvironment
  refine ⟨(hsets _).mpr ⟨?_, ?_, ?_⟩, (herror _).mpr (.sanitize ?_ ⟨⟨by decide, rfl⟩, ?_⟩)⟩
  · exact .word ⟨by decide, rfl⟩ ⟨"json", by simp [formatWords], by decide⟩
  · exact .absent (.inr (.inr ⟨[0xFF], rfl, by decide⟩))
  · exact .word ⟨by decide, rfl⟩ ⟨"on", by simp [boolWords], by decide⟩
  · rintro other ⟨⟨-, hnone⟩, -⟩
    cases hnone
  · rw [exists_means_iff]
    decide

end Permalink.Settings
