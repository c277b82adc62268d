import Permalink.Proofs.Command.Arguments
import Permalink.Proofs.Command.Run

set_option autoImplicit false

namespace Permalink.Command
open Text

/-- What a line of the standard input gives: itself, or nothing if it is blank. A carriage return
at the end of a line would be taken for a part of its ending. -/
inductive LinksOn (line : String) : List String → Prop where
  | link : trim line ≠ "" → '\n' ∉ line.toList → line.toList.getLast? ≠ some '\r' →
      LinksOn line [line]
  | blank : trim line = "" → '\n' ∉ line.toList → LinksOn line []

/-- The bytes of some lines and the links on them. The last line may lack its ending. -/
inductive IsListing : List UInt8 → List String → Prop where
  | nil : IsListing [] []
  | last {line : String} {links : List String} : LinksOn line links →
      IsListing (Utf8.encode line.toList) links
  | line {line : String} {links others : List String} {ending rest : List UInt8} :
      LinksOn line links → ending ∈ [[0x0A], [0x0D, 0x0A]] → IsListing rest others →
      IsListing (Utf8.encode line.toList ++ (ending ++ rest)) (links ++ others)

section Line
variable {line : String} {links : List String}

theorem LinksOn.filter_eq (h : LinksOn line links) :
    [line].filter (fun link => trim link ≠ "") = links := by
  cases h with
  | link hne _ _ => simp [hne]
  | blank he _ => simp [he]

theorem LinksOn.not_mem (h : LinksOn line links) : 0x0A ∉ Utf8.encode line.toList := by
  rw [Utf8.mem_encode_iff (by decide)]
  cases h with
  | link _ hfeed _ => exact hfeed
  | blank _ hfeed => exact hfeed

/-- A blank line may lose a carriage return of its own, and is blank without it. -/
theorem LinksOn.dropReturn (h : LinksOn line links) : ∃ text : List Char,
    dropReturn (Utf8.encode line.toList) = Utf8.encode text ∧
      [String.ofList text].filter (fun link => trim link ≠ "") = links := by
  by_cases hlast : line.toList.getLast? = some '\r'
  · obtain ⟨text, htext⟩ := List.getLast?_eq_some_iff.mp hlast
    refine ⟨text, ?_, ?_⟩
    · have hbytes : Utf8.encode line.toList = Utf8.encode text ++ [0x0D] := by
        rw [htext, Utf8.encode_concat]
        rfl
      rw [hbytes, dropReturn_concat]
    · cases h with
      | link _ _ hne => exact absurd hlast hne
      | blank hblank _ =>
        rw [trim_eq_empty_iff, htext] at hblank
        have htrim : trim (String.ofList text) = "" := by
          rw [trim_eq_empty_iff, String.toList_ofList]
          exact fun c hc => hblank c (List.mem_append_left _ hc)
        simp [htrim]
  · refine ⟨line.toList, dropReturn_eq_self ?_, ?_⟩
    · rwa [ne_eq, Utf8.getLast?_encode_iff (by decide)]
    · rw [String.ofList_toList, h.filter_eq]

theorem LinksOn.lines_append (h : LinksOn line links) {ending : List UInt8}
    (hending : ending ∈ [[0x0A], [0x0D, 0x0A]]) : ∃ text : List Char,
      [String.ofList text].filter (fun link => trim link ≠ "") = links ∧
      ∀ rest, lines (Utf8.encode line.toList ++ (ending ++ rest)) =
        Utf8.encode text :: lines rest := by
  have hfeed := h.not_mem
  -- Before a line feed alone, a carriage return of the line itself is taken for its ending.
  obtain rfl | rfl : ending = [0x0A] ∨ ending = [0x0D, 0x0A] := by simpa using hending
  · obtain ⟨text, hbytes, hlinks⟩ := h.dropReturn
    exact ⟨text, hlinks, fun rest => hbytes ▸ lines_append_feed hfeed rest⟩
  · refine ⟨line.toList, by rw [String.ofList_toList, h.filter_eq], fun rest => ?_⟩
    have hmem : 0x0A ∉ Utf8.encode line.toList ++ [0x0D] := by simpa using hfeed
    have happend : Utf8.encode line.toList ++ ([0x0D, 0x0A] ++ rest) =
        (Utf8.encode line.toList ++ [0x0D]) ++ 0x0A :: rest := by simp
    rw [happend, lines_append_feed hmem, dropReturn_concat]

end Line

section Listing
variable {stdin : List UInt8} {links : List String}

theorem IsListing.exists_texts (h : IsListing stdin links) : ∃ texts : List (List Char),
    lines stdin = texts.map Utf8.encode ∧
      (texts.map String.ofList).filter (fun link => trim link ≠ "") = links := by
  induction h with
  | nil => exact ⟨[], rfl, rfl⟩
  | @last line links hline =>
    rw [lines_of_not_mem hline.not_mem]
    have hlinks := hline.filter_eq
    split
    · rename_i hnil
      obtain rfl := String.toList_eq_nil_iff.mp (Utf8.encode_eq_nil_iff.mp hnil)
      exact ⟨[], rfl, hlinks⟩
    · exact ⟨[line.toList], rfl, by rwa [List.map_singleton, String.ofList_toList]⟩
  | line hline hending _ ih =>
    obtain ⟨text, hlinks, hlines⟩ := hline.lines_append hending
    obtain ⟨texts, hrest, hothers⟩ := ih
    refine ⟨text :: texts, by rw [hlines, hrest, List.map_cons], ?_⟩
    rw [List.map_cons, ← List.singleton_append, List.filter_append, hlinks, hothers]

theorem IsListing.linksOfInput_eq (h : IsListing stdin links) :
    linksOfInput? stdin = some links := by
  obtain ⟨texts, hlines, hlinks⟩ := h.exists_texts
  rw [linksOfInput_eq_some hlines, hlinks]

theorem IsListing.reportAll_eq (h : IsListing stdin links) (hne : links ≠ []) {options : Options}
    (hoptions : options.links = []) (environment : Environment) (other : List UInt8) :
    reportAll { options with links } environment other = reportAll options environment stdin := by
  unfold reportAll
  cases Settings.ofEnvironment environment with
  | error error => rfl
  | ok settings =>
    rw [hoptions, List.isEmpty_nil, if_pos rfl, h.linksOfInput_eq, if_neg (by simpa using hne)]
    rfl

/-- Links behind the mark `--` give the run that they give on the lines of the standard input: the
same exit code, the same output and the same failure. -/
theorem run_links_as_arguments_or_lines {chunks : List (List (List UInt8))}
    (hchunks : ∀ chunk ∈ chunks, IsOption chunk) (h : IsListing stdin links) (hne : links ≠ [])
    (environment : Environment) (other : List UInt8) :
    run (chunks.flatten ++ endMark :: links.map fun link => Utf8.encode link.toList)
        environment other =
      run chunks.flatten environment stdin := by
  obtain ⟨hnone, hread⟩ := readArguments_links hchunks links
  unfold run
  rw [hread]
  cases hasked : readArguments? chunks.flatten with
  | none => rfl
  | some request =>
    cases request with
    | report options => exact h.reportAll_eq hne (hnone options hasked) environment other
    | version | help => rfl

/-- A blank line made of an ideographic space, a carriage return within a link, both endings, and
a last line without one. -/
theorem run_mixed_listing :
    run [Utf8.encode "--format".toList, Utf8.encode "json".toList,
        Utf8.encode "--strip-tracking".toList, Utf8.encode "--".toList,
        Utf8.encode "https://youtu.be/a\rb".toList, Utf8.encode "-h".toList]
        ⟨none, none, none⟩ [0xFF] =
      run [Utf8.encode "--format".toList, Utf8.encode "json".toList,
          Utf8.encode "--strip-tracking".toList] ⟨none, none, none⟩
        (Utf8.encode "\u3000\r\nhttps://youtu.be/a\rb\n\n-h".toList) := by
  have hchunks : ∀ chunk ∈ [[Utf8.encode "--format".toList, Utf8.encode "json".toList],
      [Utf8.encode "--strip-tracking".toList]], IsOption chunk := by
    simp only [List.forall_mem_cons]
    exact ⟨.valued _, .alone _ _ (by decide) (by decide), nofun⟩
  have hspace : LinksOn "\u3000" [] := .blank (by decide) (by decide)
  have hvideo : LinksOn "https://youtu.be/a\rb" ["https://youtu.be/a\rb"] :=
    .link (by decide) (by decide) (by decide)
  have hempty : LinksOn "" [] := .blank (by decide) (by decide)
  have hhyphen : LinksOn "-h" ["-h"] := .link (by decide) (by decide) (by decide)
  have hfeed : [0x0A] ∈ [[0x0A], [(0x0D : UInt8), 0x0A]] := by decide
  have hreturn : [0x0D, 0x0A] ∈ [[0x0A], [(0x0D : UInt8), 0x0A]] := by decide
  have hlisting := IsListing.line hspace hreturn
    (.line hvideo hfeed (.line hempty hfeed (.last hhyphen)))
  exact run_links_as_arguments_or_lines hchunks hlisting (by decide) ⟨none, none, none⟩ [0xFF]

end Listing

end Permalink.Command
