import Permalink.Proofs.Command.Run
import Permalink.Proofs.Report.RoundTrip

set_option autoImplicit false

namespace Permalink

namespace Report

variable (report : Report)

theorem toList_json : report.json.toList = (Json.object report.fields).chars :=
  String.toList_ofList

theorem spells_json : Json.Spells (.object report.fields) report.json.toList := by
  rw [toList_json]
  exact Json.spells_chars _

theorem lineFeed_not_mem_json : '\n' ∉ report.json.toList := by
  intro hmem
  have hprintable := report.spells_json.isPrintable '\n' hmem
  revert hprintable
  decide

end Report

namespace Command
open Text

/-- The links a run reports: those of the command line or, without any, those on the lines of the
standard input, which are all UTF-8. -/
def Options.Gives (options : Options) (stdin : List UInt8) (inputs : List String) : Prop :=
  (options.links ≠ [] ∧ inputs = options.links) ∨
    (options.links = [] ∧ ∃ texts : List (List Char), IsLines stdin (texts.map Utf8.encode) ∧
      inputs = (texts.map String.ofList).filter fun link => trim link ≠ "")

variable {options : Options} {stdin : List UInt8} {inputs : List String}

theorem Options.Gives.links_eq (h : options.Gives stdin inputs) :
    (if options.links.isEmpty then linksOfInput? stdin else some options.links) = some inputs := by
  rcases h with ⟨hlinks, rfl⟩ | ⟨hlinks, texts, hlines, rfl⟩
  · rw [if_neg]
    rwa [List.isEmpty_iff]
  · rw [if_pos (List.isEmpty_iff.mpr hlinks), linksOfInput_eq_some hlines.lines_eq]

theorem splitOn_printReports {settings : Settings} (h : settings.format = .json)
    (inputs : List String) : (printReports settings inputs).toList.splitOn '\n' =
      inputs.map (fun input => (Report.ofInput settings input).json.toList) ++ [[]] := by
  have hlines : (printReports settings inputs).toList =
      (inputs.map fun input => (Report.ofInput settings input).json.toList).flatMap
        (· ++ ['\n']) := by
    simp [printReports, h, Report.render, String.toList_join, List.flatMap_map]
  rw [hlines, splitOn_flatMap_append]
  exact List.forall_mem_map.mpr fun input _ => Report.lineFeed_not_mem_json _

/-- Nothing of a report is lost in its JSON, and nothing of the reports in the output. -/
theorem json_output_is_lossless :
    (∀ report : Report, (∀ c ∈ (report.render .json).toList, 0x20 ≤ c.toNat) ∧
      (∃ fields, (fields.map (·.1)).Nodup ∧
        Json.Spells (.object fields) (report.render .json).toList) ∧
      Report.ofText? (report.render .json) = some report ∧
      ∀ other : Report, other.render .json = report.render .json → other = report) ∧
    ∀ {arguments : List (List UInt8)} {options : Options} {environment : Environment}
      {settings : Settings} {stdin : List UInt8} {inputs : List String},
      readArguments? arguments = some (.report options) →
      Settings.ofEnvironment environment = .ok settings →
      (options.override settings).format = .json → options.Gives stdin inputs →
      ∃ objects : List (List Char),
        (run arguments environment stdin).code = 0 ∧
        (run arguments environment stdin).stdout.toList.splitOn '\n' = objects ++ [[]] ∧
        (∀ object ∈ objects, ∃ fields, (fields.map (·.1)).Nodup ∧
          Json.Spells (.object fields) object) ∧
        objects.map (fun object => Report.ofText? (String.ofList object)) =
          inputs.map fun input => some (Report.ofInput (options.override settings) input) := by
  refine ⟨fun report => ⟨report.spells_json.isPrintable,
    ⟨_, report.nodup_fields, report.spells_json⟩, report.ofText_json, fun other heq => ?_⟩, ?_⟩
  · have hjson : other.json = report.json := heq
    rw [← Option.some_inj, ← other.ofText_json, hjson, report.ofText_json]
  · intro arguments options environment settings stdin inputs hread hsettings hformat hgives
    have hrun := (run_of_report hread).trans (reportAll_of_inputs hsettings hgives.links_eq)
    refine ⟨inputs.map fun input => (Report.ofInput (options.override settings) input).json.toList,
      ?_, ?_, ?_, ?_⟩
    · rw [hrun]
    · rw [hrun]
      exact splitOn_printReports hformat inputs
    · rw [List.forall_mem_map]
      exact fun input _ => ⟨_, Report.nodup_fields _, Report.spells_json _⟩
    · rw [List.map_map]
      refine List.map_congr_left fun input _ => ?_
      rw [Function.comp_apply, String.ofList_toList, Report.ofText_json]

theorem json_output_of_two_lines :
    readArguments? [Utf8.encode "--format=json".toList, Utf8.encode "a\n\x22b".toList] =
        some (.report ⟨["a\n\x22b"], some .json, false, false⟩) ∧
      ∃ object : List Char,
        (run [Utf8.encode "--format=json".toList, Utf8.encode "a\n\x22b".toList]
          ⟨none, none, none⟩ []).stdout.toList.splitOn '\n' = [object, []] ∧
        Report.ofText? (String.ofList object) =
          some (Report.ofInput ⟨.json, true, false⟩ "a\n\x22b") := by
  have hread : readArguments? [Utf8.encode "--format=json".toList,
      Utf8.encode "a\n\x22b".toList] =
      some (.report ⟨["a\n\x22b"], some .json, false, false⟩) := by decide +kernel
  have hsettings : Settings.ofEnvironment ⟨none, none, none⟩ = .ok .initial := rfl
  have hgives : Options.Gives ⟨["a\n\x22b"], some .json, false, false⟩ [] ["a\n\x22b"] :=
    .inl ⟨List.cons_ne_nil _ _, rfl⟩
  obtain ⟨objects, -, hsplit, -, hreports⟩ := json_output_is_lossless.2 hread hsettings rfl hgives
  obtain ⟨object, rfl⟩ := List.length_eq_one_iff.mp (by simpa using congrArg List.length hreports)
  exact ⟨hread, object, hsplit, List.head_eq_of_cons_eq hreports⟩

end Command
end Permalink
