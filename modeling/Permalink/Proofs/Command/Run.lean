import Mathlib.Data.Set.List
import Permalink.Command.Run
import Permalink.Proofs.Settings
import Permalink.Proofs.Text.Size
import Permalink.Proofs.Text.Strict

set_option autoImplicit false

namespace Permalink.Command
open Text Utf8

/-- The bytes of a text and its lines. A line feed ends a line, alone or after a carriage return;
the last line may lack its end. -/
inductive IsLines : List UInt8 → List (List UInt8) → Prop where
  | nil : IsLines [] []
  | last {line : List UInt8} : line ≠ [] → 0x0A ∉ line → IsLines line [line]
  | feed {line rest : List UInt8} {others : List (List UInt8)} : 0x0A ∉ line →
      line.getLast? ≠ some 0x0D → IsLines rest others →
      IsLines (line ++ 0x0A :: rest) (line :: others)
  | returnFeed {line rest : List UInt8} {others : List (List UInt8)} : 0x0A ∉ line →
      IsLines rest others → IsLines (line ++ 0x0D :: 0x0A :: rest) (line :: others)

variable {bytes line : List UInt8} {ls : List (List UInt8)}

theorem dropReturn_eq_self (h : line.getLast? ≠ some 0x0D) : dropReturn line = line := if_neg h

theorem dropReturn_concat (line : List UInt8) : dropReturn (line ++ [0x0D]) = line := by
  simp [dropReturn]

theorem lines_of_not_mem (h : 0x0A ∉ line) : lines line = if line = [] then [] else [line] := by
  rw [lines, List.splitOn_eq_singleton h]
  cases line <;> simp [Option.filter]

theorem lines_append_feed (h : 0x0A ∉ line) (rest : List UInt8) :
    lines (line ++ 0x0A :: rest) = dropReturn line :: lines rest := by
  obtain ⟨piece, pieces, hs⟩ := List.exists_cons_of_ne_nil (List.splitOn_ne_nil 0x0A rest)
  rw [lines, lines, List.splitOn_append_cons_self_of_not_mem h, hs]
  rfl

theorem IsLines.lines_eq (h : IsLines bytes ls) : lines bytes = ls := by
  induction h with
  | nil => rfl
  | last hne hfeed => rw [lines_of_not_mem hfeed, if_neg hne]
  | feed hfeed hreturn _ ih => rw [lines_append_feed hfeed, dropReturn_eq_self hreturn, ih]
  | @returnFeed line rest others hfeed _ ih =>
    have hmem : 0x0A ∉ line ++ [0x0D] := by simpa using hfeed
    have happend : line ++ 0x0D :: 0x0A :: rest = (line ++ [0x0D]) ++ 0x0A :: rest := by simp
    rw [happend, lines_append_feed hmem, dropReturn_concat, ih]

theorem isLines_lines (bytes : List UInt8) : IsLines bytes (lines bytes) := by
  induction hn : bytes.length using Nat.strongRecOn generalizing bytes with
  | ind n ih =>
    by_cases hmem : 0x0A ∈ bytes
    · obtain ⟨line, rest, rfl, hfeed⟩ := List.eq_append_cons_of_mem hmem
      have hrest : IsLines rest (lines rest) := ih rest.length (by simp at hn; omega) rest rfl
      rw [lines_append_feed hfeed]
      by_cases hreturn : line.getLast? = some 0x0D
      · obtain ⟨front, rfl⟩ := List.getLast?_eq_some_iff.mp hreturn
        rw [dropReturn_concat, List.append_assoc]
        exact .returnFeed (fun hmem => hfeed (List.mem_append_left _ hmem)) hrest
      · rw [dropReturn_eq_self hreturn]
        exact .feed hfeed hreturn hrest
    · rw [lines_of_not_mem hmem]
      split
      · rename_i he
        exact he ▸ .nil
      · rename_i hne
        exact .last hne hmem

theorem isLines_iff : IsLines bytes ls ↔ lines bytes = ls := by
  refine ⟨IsLines.lines_eq, ?_⟩
  rintro rfl
  exact isLines_lines bytes

theorem linksOfInput_eq_none (h : ∃ line ∈ lines bytes, ¬ IsUtf8 line) :
    linksOfInput? bytes = none := by
  obtain ⟨line, hline, hnot⟩ := h
  rw [linksOfInput?, Option.map_eq_none_iff, Option.eq_none_iff_forall_ne_some]
  intro texts hread
  rw [mapM_eq_some_iff_eq_map fun _ _ => decode_eq_some_iff] at hread
  rw [hread] at hline
  obtain ⟨text, -, rfl⟩ := List.mem_map.mp hline
  exact hnot ⟨text, rfl⟩

theorem linksOfInput_eq_some {texts : List (List Char)} (h : lines bytes = texts.map encode) :
    linksOfInput? bytes = some ((texts.map String.ofList).filter fun link => trim link ≠ "") := by
  have hread : (lines bytes).mapM decode? = some texts :=
    (mapM_eq_some_iff_eq_map fun _ _ => decode_eq_some_iff).mpr h
  rw [linksOfInput?, hread, Option.map_some, List.filter_map]
  congr 2
  refine List.filter_congr fun text _ => ?_
  rw [Function.comp_apply, Bool.eq_iff_iff]
  simp [trim_eq_empty_iff]

theorem exists_texts (h : ∀ line ∈ ls, IsUtf8 line) :
    ∃ texts : List (List Char), ls = texts.map encode := by
  have hrange : ls ∈ {ls | ∀ line ∈ ls, line ∈ Set.range encode} :=
    fun line hline => (h line hline).imp fun _ => Eq.symm
  rw [← Set.range_list_map] at hrange
  exact hrange.imp fun _ => Eq.symm

variable {arguments : List (List UInt8)} {options : Options} {environment : Environment}
  {settings : Settings} {stdin : List UInt8}

theorem run_of_report (h : readArguments? arguments = some (.report options)) :
    run arguments environment stdin = reportAll options environment stdin := by
  rw [run, h]

theorem reportAll_of_not_isValid (h : ¬ environment.IsValid) (options : Options)
    (stdin : List UInt8) : ∃ error, Settings.ofEnvironment environment = .error error ∧
      reportAll options environment stdin = ⟨1, "", some (.settings error)⟩ := by
  rw [← Settings.exists_ofEnvironment_iff] at h
  cases hs : Settings.ofEnvironment environment with
  | error error => exact ⟨error, rfl, by rw [reportAll, hs]⟩
  | ok settings => exact absurd ⟨settings, hs⟩ h

theorem reportAll_of_not_isUtf8 (hs : Settings.ofEnvironment environment = .ok settings)
    (hlinks : options.links = []) (hline : ∃ line ∈ lines stdin, ¬ Utf8.IsUtf8 line) :
    reportAll options environment stdin = ⟨1, "", some .notUtf8⟩ := by
  simp only [reportAll, hs, hlinks, List.isEmpty_nil, if_true, linksOfInput_eq_none hline]

theorem exists_inputs (h : ¬ (options.links = [] ∧ ∃ line ∈ lines stdin, ¬ Utf8.IsUtf8 line)) :
    ∃ inputs : List String,
      (if options.links.isEmpty then linksOfInput? stdin else some options.links) = some inputs ∧
      (options.links ≠ [] → inputs = options.links) ∧
      (options.links = [] → ∃ texts : List (List Char), lines stdin = texts.map Utf8.encode ∧
        inputs = (texts.map String.ofList).filter fun link => trim link ≠ "") := by
  by_cases hlinks : options.links = []
  · have hutf8 : ∀ line ∈ lines stdin, Utf8.IsUtf8 line := by simpa [hlinks] using h
    obtain ⟨texts, htexts⟩ := exists_texts hutf8
    refine ⟨_, ?_, fun hne => absurd hlinks hne, fun _ => ⟨texts, htexts, rfl⟩⟩
    rw [if_pos (List.isEmpty_iff.mpr hlinks), linksOfInput_eq_some htexts]
  · refine ⟨options.links, if_neg ?_, fun _ => rfl, fun he => absurd he hlinks⟩
    rwa [List.isEmpty_iff]

theorem reportAll_of_inputs {inputs : List String}
    (hs : Settings.ofEnvironment environment = .ok settings)
    (hinputs : (if options.links.isEmpty then linksOfInput? stdin else some options.links) =
      some inputs) :
    reportAll options environment stdin =
      ⟨0, printReports (options.override settings) inputs, none⟩ := by
  rw [reportAll, hs]
  simp only [hinputs]

/-- Links on the command line leave the standard input unread, and a settings error is reported
whatever the links are. -/
theorem run_all_or_nothing (h : readArguments? arguments = some (.report options))
    (environment : Environment) (stdin : List UInt8) : ∃ ls, IsLines stdin ls ∧
      (¬ environment.IsValid → ∃ error, Settings.ofEnvironment environment = .error error ∧
        run arguments environment stdin = ⟨1, "", some (.settings error)⟩) ∧
      (environment.IsValid → (options.links = [] ∧ ∃ line ∈ ls, ¬ Utf8.IsUtf8 line) →
        run arguments environment stdin = ⟨1, "", some .notUtf8⟩) ∧
      (environment.IsValid → ¬ (options.links = [] ∧ ∃ line ∈ ls, ¬ Utf8.IsUtf8 line) →
        ∃ settings inputs, Settings.ofEnvironment environment = .ok settings ∧
          (options.links ≠ [] → inputs = options.links) ∧
          (options.links = [] → ∃ texts : List (List Char), ls = texts.map Utf8.encode ∧
            inputs = (texts.map String.ofList).filter fun link => trim link ≠ "") ∧
          run arguments environment stdin =
            ⟨0, String.join (inputs.map fun input =>
              (Report.ofInput (options.override settings) input).render
                (options.override settings).format ++ "\n"), none⟩) := by
  rw [run_of_report h]
  refine ⟨lines stdin, isLines_lines stdin, fun hinvalid => ?_, fun hvalid hbad => ?_,
    fun hvalid hgood => ?_⟩
  · exact reportAll_of_not_isValid hinvalid options stdin
  · obtain ⟨settings, hs⟩ := Settings.exists_ofEnvironment_iff.mpr hvalid
    exact reportAll_of_not_isUtf8 hs hbad.1 hbad.2
  · obtain ⟨settings, hs⟩ := Settings.exists_ofEnvironment_iff.mpr hvalid
    obtain ⟨inputs, hinputs, harguments, hlines⟩ := exists_inputs hgood
    exact ⟨settings, inputs, hs, harguments, hlines, reportAll_of_inputs hs hinputs⟩

def brokenInput : List UInt8 :=
  Utf8.encode "https://youtu.be/a\n".toList ++ 0xFF :: Utf8.encode "\nhttps://youtu.be/b".toList

theorem run_brokenInput : readArguments? [Utf8.encode "--strip-tracking".toList] =
      some (.report ⟨[], none, false, true⟩) ∧
    run [Utf8.encode "--strip-tracking".toList] ⟨none, none, none⟩ brokenInput =
      ⟨1, "", some .notUtf8⟩ := by
  have hread : readArguments? [Utf8.encode "--strip-tracking".toList] =
      some (.report ⟨[], none, false, true⟩) := by decide +kernel
  have hvalid : Environment.IsValid ⟨none, none, none⟩ :=
    Settings.exists_ofEnvironment_iff.mp ⟨.initial, rfl⟩
  obtain ⟨ls, hls, -, hbad, -⟩ := run_all_or_nothing hread ⟨none, none, none⟩ brokenInput
  refine ⟨hread, hbad hvalid ⟨rfl, [0xFF], ?_, by decide⟩⟩
  rw [← hls.lines_eq]
  decide +kernel

def Outcome.shown (outcome : Outcome) : Nat × String := (outcome.code, outcome.stdout)

/-- The environments differ at most in variables that the options override. -/
structure Options.Hides (options : Options) (a b : Environment) : Prop where
  format : options.format = none → a.format = b.format
  sanitize : options.noSanitize = false → a.sanitize = b.sanitize
  stripTracking : options.stripTracking = false → a.stripTracking = b.stripTracking

def Options.MeetsBrokenLine (options : Options) (ls : List (List UInt8)) : Prop :=
  options.links = [] ∧ ∃ line ∈ ls, ¬ Utf8.IsUtf8 line

variable {a b : Environment} {other : Settings}

theorem override_eq_of_hides (h : options.Hides a b) (ha : Settings.ofEnvironment a = .ok settings)
    (hb : Settings.ofEnvironment b = .ok other) :
    options.override settings = options.override other := by
  obtain ⟨haf, has, hat⟩ := Settings.ofEnvironment_eq_ok_iff.mp ha
  obtain ⟨hbf, hbs, hbt⟩ := Settings.ofEnvironment_eq_ok_iff.mp hb
  have hformat : options.format = none → settings.format = other.format := fun hnone =>
    Except.ok.inj (haf.symm.trans (h.format hnone ▸ hbf))
  have hsanitize : options.noSanitize = false → settings.sanitize = other.sanitize := fun hoff =>
    Except.ok.inj (has.symm.trans (h.sanitize hoff ▸ hbs))
  have hstrip : options.stripTracking = false → settings.stripTracking = other.stripTracking :=
    fun hoff => Except.ok.inj (hat.symm.trans (h.stripTracking hoff ▸ hbt))
  rw [Options.override, Options.override, Settings.mk.injEq]
  refine ⟨?_, ?_, ?_⟩
  · cases hf : options.format with
    | none => exact hformat hf
    | some format => rfl
  · cases hn : options.noSanitize with
    | false => rw [hsanitize hn]
    | true => simp
  · cases hs : options.stripTracking with
    | false => rw [hstrip hs]
    | true => simp

theorem shown_of_not_isValid (h : ¬ environment.IsValid) (options : Options) (stdin : List UInt8) :
    (reportAll options environment stdin).shown = (1, "") := by
  obtain ⟨error, _, hrun⟩ := reportAll_of_not_isValid h options stdin
  rw [hrun]
  rfl

theorem shown_of_meetsBrokenLine (h : options.MeetsBrokenLine (lines stdin))
    (environment : Environment) : (reportAll options environment stdin).shown = (1, "") := by
  by_cases hvalid : environment.IsValid
  · obtain ⟨settings, hs⟩ := Settings.exists_ofEnvironment_iff.mpr hvalid
    rw [reportAll_of_not_isUtf8 hs h.1 h.2]
    rfl
  · exact shown_of_not_isValid hvalid options stdin

theorem exists_shown_of_isValid (h : ¬ options.MeetsBrokenLine (lines stdin)) :
    ∃ inputs, ∀ environment settings, Settings.ofEnvironment environment = .ok settings →
      (reportAll options environment stdin).shown =
        (0, printReports (options.override settings) inputs) := by
  obtain ⟨inputs, hinputs, _⟩ := exists_inputs h
  refine ⟨inputs, fun environment settings hs => ?_⟩
  rw [reportAll_of_inputs hs hinputs]
  rfl

theorem shown_ne_of_isValid (hbroken : ¬ options.MeetsBrokenLine (lines stdin)) (ha : a.IsValid)
    (hb : ¬ b.IsValid) :
    (reportAll options a stdin).shown ≠ (reportAll options b stdin).shown := by
  obtain ⟨inputs, hshown⟩ := exists_shown_of_isValid hbroken
  obtain ⟨settings, hs⟩ := Settings.exists_ofEnvironment_iff.mpr ha
  rw [hshown a settings hs, shown_of_not_isValid hb]
  simp

/-- Two runs under environments that differ only in overridden variables show the same exactly if
both environments can be used or neither can, or the links cannot be read anyway. -/
theorem run_overridden_iff (h : readArguments? arguments = some (.report options))
    (hab : options.Hides a b) {ls : List (List UInt8)} (hls : IsLines stdin ls) :
    (run arguments a stdin).shown = (run arguments b stdin).shown ↔
      (a.IsValid ↔ b.IsValid) ∨ options.MeetsBrokenLine ls := by
  rw [run_of_report h, run_of_report h, ← hls.lines_eq]
  by_cases hbroken : options.MeetsBrokenLine (lines stdin)
  · simp [hbroken, shown_of_meetsBrokenLine hbroken]
  simp only [hbroken, or_false]
  by_cases ha : a.IsValid <;> by_cases hb : b.IsValid
  · obtain ⟨inputs, hshown⟩ := exists_shown_of_isValid hbroken
    obtain ⟨settings, hs⟩ := Settings.exists_ofEnvironment_iff.mpr ha
    obtain ⟨other, ho⟩ := Settings.exists_ofEnvironment_iff.mpr hb
    rw [hshown a settings hs, hshown b other ho, override_eq_of_hides hab hs ho]
    simp [ha, hb]
  · simp [ha, hb, shown_ne_of_isValid hbroken ha hb]
  · simp [ha, hb, (shown_ne_of_isValid hbroken hb ha).symm]
  · simp [ha, hb, shown_of_not_isValid]

def overridingArguments : List (List UInt8) :=
  [Utf8.encode "--format=json".toList, Utf8.encode "--no-sanitize".toList]

def formatEnvironment : Environment :=
  ⟨some (Utf8.encode "TEXT".toList), some [0xFF], some (Utf8.encode "yes".toList)⟩

def sanitizeEnvironment : Environment :=
  ⟨none, some (Utf8.encode "on".toList), some (Utf8.encode "yes".toList)⟩

theorem run_under_overridden_variables :
    readArguments? overridingArguments = some (.report ⟨[], some .json, true, false⟩) ∧
      Options.Hides ⟨[], some .json, true, false⟩ formatEnvironment sanitizeEnvironment ∧
      IsLines [0x61, 0x0A, 0x62] [[0x61], [0x62]] ∧
      (run overridingArguments formatEnvironment [0x61, 0x0A, 0x62]).shown =
        (run overridingArguments sanitizeEnvironment [0x61, 0x0A, 0x62]).shown := by
  have hread : readArguments? overridingArguments =
      some (.report ⟨[], some .json, true, false⟩) := by decide +kernel
  have hhides : Options.Hides ⟨[], some .json, true, false⟩ formatEnvironment
      sanitizeEnvironment := ⟨nofun, nofun, fun _ => rfl⟩
  have hlines : IsLines [0x61, 0x0A, 0x62] [[0x61], [0x62]] := isLines_iff.mpr (by decide)
  have hformat : formatEnvironment.IsValid :=
    Settings.exists_ofEnvironment_iff.mp ⟨⟨.text, true, true⟩, rfl⟩
  have hsanitize : sanitizeEnvironment.IsValid :=
    Settings.exists_ofEnvironment_iff.mp ⟨⟨.text, true, true⟩, rfl⟩
  exact ⟨hread, hhides, hlines,
    (run_overridden_iff hread hhides hlines).mpr (.inl (iff_of_true hformat hsanitize))⟩

/-- A format that is not known ends the run, although the command line names another one. -/
theorem unknown_format_defeats_option :
    (run [Utf8.encode "--format".toList, Utf8.encode "text".toList, Utf8.encode "x".toList]
        ⟨none, none, none⟩ []).shown = (0, "x -> unhandled\n") ∧
      (run [Utf8.encode "--format".toList, Utf8.encode "text".toList, Utf8.encode "x".toList]
        ⟨some (Utf8.encode "xml".toList), none, none⟩ []).shown = (1, "") := by
  decide +kernel

end Permalink.Command
