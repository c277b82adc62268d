import Mathlib
import Permalink.Domain.Name
import Permalink.Proofs.Domain.Punycode
import Permalink.Proofs.Text.Cut
import Permalink.Proofs.Unicode.Capital
import Permalink.Proofs.Url.Query

set_option autoImplicit false

namespace Permalink.Domain
open Text Unicode

set_option maxRecDepth 100000 in
theorem replacements_isPlain : replacements.all Substitution.isPlain = true := by
  refine of_chars (p := fun cs => ((cs.splitOn '\n').filterMap fun line =>
    Substitution.ofWords (words line)).all Substitution.isPlain = true) ?chars ?listed ?checked
  case listed =>
    delta replacementTable
    with_reducible exact rfl
  case checked => decide +kernel

theorem isUpper_mapChar {c : Char} {out : List Char} (h : mapChar? c = some out) :
    ∀ d ∈ out, d.isUpper = false := by
  rw [mapChar?] at h
  split at h
  · rw [← Option.some.inj h]
    simp
  split at h
  · rename_i hascii _
    rw [← Option.some.inj h]
    intro d hd
    rw [List.mem_singleton.mp hd, ← avoidsCapitals_toNat]
    exact avoidsCapitals_of_lt (by omega)
  split at h
  · rw [← Option.some.inj h]
    simp
  · exact Substitution.isUpper_of_find replacements_isPlain h

theorem isUpper_mapText {cs out : List Char} (h : mapText? cs = some out) :
    ∀ d ∈ out, d.isUpper = false := by
  rw [mapText?] at h
  split at h
  · rw [← Option.some.inj h]
    intro d hd
    obtain ⟨c, _, rfl⟩ := List.mem_map.mp hd
    exact Char.isUpper_toLower_eq_false c
  · obtain ⟨mapped, hmapped, rfl⟩ := Option.map_eq_some_iff.mp h
    refine isUpper_normalize fun c hc => ?_
    obtain ⟨piece, hpiece, hc⟩ := List.mem_flatten.mp hc
    obtain ⟨d, _, hd⟩ := forall_of_mapM hmapped piece hpiece
    exact isUpper_mapChar hd c hc

/-- A character that stands in an ASCII form for itself. -/
def isNameChar (c : Char) : Bool := isAscii c && !c.isUpper && !isForbidden c

theorem isNameChar_iff {c : Char} : isNameChar c = true ↔
    isAscii c = true ∧ c.isUpper = false ∧ isForbidden c = false := by
  simp [isNameChar, and_assoc]

theorem isNameChar_digit {n : Nat} (h : n < 36) :
    isNameChar (Punycode.digit n) = true ∧ Punycode.digit n ≠ '.' := by
  have all : ∀ m ∈ List.range 36,
      isNameChar (Punycode.digit m) = true ∧ Punycode.digit m ≠ '.' := by decide
  exact all n (List.mem_range.mpr h)

theorem isForbidden_of_digitValue {c : Char} (hascii : isAscii c = true)
    (h : (Punycode.digitValue? c).isSome) : isForbidden c = false :=
  Url.Form.forall_ascii (p := fun c => (Punycode.digitValue? c).isSome → isForbidden c = false)
    (by decide +kernel) (of_decide_eq_true hascii) h

theorem isNameChar_encodedMark : ∀ c ∈ encodedMark, isNameChar c = true ∧ c ≠ '.' := by
  have all : encodedMark.all (fun c => isNameChar c ∧ c ≠ '.') = true := by decide
  simpa only [List.all_eq_true, decide_eq_true_eq] using all

theorem mapText_of_isNameChar {cs : List Char} (h : ∀ c ∈ cs, isNameChar c = true) :
    mapText? cs = some cs := by
  have hascii : cs.all isAscii = true :=
    List.all_eq_true.mpr fun c hc => (isNameChar_iff.mp (h c hc)).1
  have hlower : cs.map Char.toLower = cs := by
    conv_rhs => rw [← List.map_id cs]
    refine List.map_congr_left fun c hc => ?_
    have hupper := (isNameChar_iff.mp (h c hc)).2.1
    exact Char.toLower_eq_of_not_isUpper (by simp [hupper])
  rw [mapText?, if_pos hascii, hlower]

/-- A label whose ASCII form is read as the label. -/
structure Label.IsWritten (label : Label) : Prop where
  plain : ∀ c ∈ label.ascii, isNameChar c = true ∧ c ≠ '.'
  read : Label.ofMapped? label.ascii = some label

theorem isForbidden_of_isReadable {cs : List Char} (h : isReadable cs = true) :
    ∀ c ∈ cs, isForbidden c = false := by
  simp only [isReadable, Bool.and_eq_true] at h
  simpa using h.1.1.1.2

theorem isForbidden_of_encoded {text readable : List Char} (hmark : encodedMark <+: text)
    (hascii : ∀ c ∈ text, isAscii c = true) (hdecode : Punycode.decode? (text.drop 4) = some readable)
    (hreadable : isReadable readable = true) : ∀ c ∈ text, isForbidden c = false := by
  obtain ⟨word, rfl⟩ := hmark
  intro c hc
  rcases List.mem_append.mp hc with hmem | hmem
  · exact (isNameChar_iff.mp (isNameChar_encodedMark c hmem).1).2.2
  · rcases Punycode.mem_of_decode hdecode hmem with hword | rfl | hdigit
    · exact isForbidden_of_isReadable hreadable c hword
    · decide
    · exact isForbidden_of_digitValue (hascii c hc) hdigit

theorem Label.isWritten_of_isReadable {text : List Char} (hupper : ∀ c ∈ text, c.isUpper = false)
    (hdot : '.' ∉ text) (hascii : text.all isAscii = false) (h : isReadable text = true) :
    Label.IsWritten ⟨encodedMark ++ Punycode.encode text, text⟩ := by
  have hplain : ∀ c ∈ encodedMark ++ Punycode.encode text, isNameChar c = true ∧ c ≠ '.' := by
    intro c hc
    rcases List.mem_append.mp hc with hc | hc
    · exact isNameChar_encodedMark c hc
    · rcases Punycode.mem_encode hc with ⟨hmem, hlt⟩ | rfl | ⟨n, hn, rfl⟩
      · refine ⟨isNameChar_iff.mpr ⟨?_, hupper c hmem, isForbidden_of_isReadable h c hmem⟩, ?_⟩
        · simpa [isAscii] using hlt
        · rintro rfl
          exact hdot hmem
      · decide
      · exact isNameChar_digit hn
  refine ⟨hplain, ?_⟩
  have hall : (encodedMark ++ Punycode.encode text).all isAscii = true :=
    List.all_eq_true.mpr fun c hc => (isNameChar_iff.mp (hplain c hc).1).1
  have hdrop : (encodedMark ++ Punycode.encode text).drop 4 = Punycode.encode text := rfl
  rw [Label.ofMapped?, if_pos (by simp), hdrop, Punycode.decode_encode, Option.bind_some]
  simp [hall, hascii, h]

theorem Label.isWritten_of_ofMapped {text : List Char} {label : Label}
    (hupper : ∀ c ∈ text, c.isUpper = false) (hdot : '.' ∉ text)
    (h : Label.ofMapped? text = some label) : label.IsWritten := by
  have hread := h
  have hplain (hascii : ∀ c ∈ text, isAscii c = true)
      (hforbidden : ∀ c ∈ text, isForbidden c = false) :
      ∀ c ∈ text, isNameChar c = true ∧ c ≠ '.' := by
    refine fun c hc => ⟨isNameChar_iff.mpr ⟨hascii c hc, hupper c hc, hforbidden c hc⟩, ?_⟩
    rintro rfl
    exact hdot hc
  -- A label is an encoded form that reads back, plain ASCII, or a readable form.
  rw [Label.ofMapped?] at h
  split at h
  · rename_i hmark
    obtain ⟨readable, hdecode, h⟩ := Option.bind_eq_some_iff.mp h
    split at h
    · rename_i hallowed
      obtain rfl := Option.some.inj h
      rw [Bool.and_eq_true, Bool.and_eq_true] at hallowed
      have hascii := List.all_eq_true.mp hallowed.1.1
      exact ⟨hplain hascii (isForbidden_of_encoded (List.isPrefixOf_iff_prefix.mp hmark) hascii
        hdecode hallowed.2), hread⟩
    · cases h
  split at h
  · rename_i hascii
    split at h
    · cases h
    · rename_i hforbidden
      obtain rfl := Option.some.inj h
      exact ⟨hplain (List.all_eq_true.mp hascii) (by simpa using hforbidden), hread⟩
  split at h
  · rename_i hascii hreadable
    obtain rfl := Option.some.inj h
    exact Label.isWritten_of_isReadable hupper hdot (by simpa using hascii) hreadable
  · cases h

theorem isNameChar_of_mem_labels {labels : List Label} (h : ∀ label ∈ labels, label.IsWritten) :
    ∀ c ∈ ['.'].intercalate (labels.map (·.ascii)), isNameChar c = true := by
  intro c hc
  rcases mem_intercalate hc with rfl | ⟨part, hpart, hc⟩
  · decide
  · obtain ⟨label, hlabel, rfl⟩ := List.mem_map.mp hpart
    exact ((h label hlabel).plain c hc).1

theorem labels_of_isWritten {labels : List Label} (hne : labels ≠ [])
    (h : ∀ label ∈ labels, label.IsWritten) :
    labels? (['.'].intercalate (labels.map (·.ascii))) = some labels := by
  have hsplit : (['.'].intercalate (labels.map (·.ascii))).splitOn '.' = labels.map (·.ascii) := by
    refine List.splitOn_intercalate '.' (fun part hpart hmem => ?_) (by simpa using hne)
    obtain ⟨label, hlabel, rfl⟩ := List.mem_map.mp hpart
    exact ((h label hlabel).plain '.' hmem).2 rfl
  rw [labels?, mapText_of_isNameChar (isNameChar_of_mem_labels h), Option.bind_some, hsplit]
  exact mapM_map_eq_some fun label hlabel => (h label hlabel).read

theorem isWritten_of_labels {cs : List Char} {labels : List Label} (h : labels? cs = some labels) :
    labels ≠ [] ∧ ∀ label ∈ labels, label.IsWritten := by
  obtain ⟨mapped, hmapped, h⟩ := Option.bind_eq_some_iff.mp h
  refine ⟨ne_nil_of_mapM (List.splitOn_ne_nil _ _) h, fun label hlabel => ?_⟩
  obtain ⟨part, hpart, hread⟩ := forall_of_mapM h label hlabel
  refine Label.isWritten_of_ofMapped (fun c hc => ?_) (fun hmem => ?_) hread
  · exact isUpper_mapText hmapped c ((sublist_of_mem_splitOnP hpart).subset hc)
  · simpa using not_of_mem_splitOnP hpart '.' hmem

theorem toAscii_toAscii {cs out : List Char} (h : toAscii? cs = some out) :
    toAscii? out = some out := by
  obtain ⟨labels, hlabels, h⟩ := Option.bind_eq_some_iff.mp h
  obtain ⟨hne, hwritten⟩ := isWritten_of_labels hlabels
  split at h
  · rename_i hallowed
    obtain rfl := Option.some.inj h
    rw [toAscii?, labels_of_isWritten hne hwritten, Option.bind_some, if_pos hallowed]
  · cases h

theorem isNameChar_of_toAscii {cs out : List Char} (h : toAscii? cs = some out) :
    ∀ c ∈ out, isNameChar c = true := by
  obtain ⟨labels, hlabels, h⟩ := Option.bind_eq_some_iff.mp h
  obtain ⟨_, hwritten⟩ := isWritten_of_labels hlabels
  split at h
  · obtain rfl := Option.some.inj h
    exact isNameChar_of_mem_labels hwritten
  · cases h

theorem Label.isWritten_of_isNameChar {part : List Char}
    (h : ∀ c ∈ part, isNameChar c = true ∧ c ≠ '.') (hmark : ¬ encodedMark <+: part) :
    Label.IsWritten ⟨part, part⟩ := by
  refine ⟨h, ?_⟩
  have hascii : part.all isAscii = true :=
    List.all_eq_true.mpr fun c hc => (isNameChar_iff.mp (h c hc).1).1
  have hforbidden : part.any isForbidden = false :=
    List.any_eq_false.mpr fun c hc => by simp [(isNameChar_iff.mp (h c hc).1).2.2]
  rw [Label.ofMapped?, if_neg (by simpa using hmark), if_pos hascii, hforbidden]
  rfl

/-- A text of characters that stand for themselves is its own ASCII form, if no label of it looks
encoded. -/
theorem toAscii_of_isNameChar {cs : List Char} (h : ∀ c ∈ cs, isNameChar c = true)
    (hmark : ∀ part ∈ cs.splitOn '.', ¬ encodedMark <+: part) : toAscii? cs = some cs := by
  obtain ⟨labels, hlabels⟩ : ∃ labels : List Label,
      labels = (cs.splitOn '.').map fun part => ⟨part, part⟩ := ⟨_, rfl⟩
  have hparts : labels.map (·.ascii) = cs.splitOn '.' := by
    simp [hlabels, Function.comp_def]
  have hname : ['.'].intercalate (labels.map (·.ascii)) = cs := by
    rw [hparts, List.intercalate_splitOn]
  have hplain : ∀ part ∈ cs.splitOn '.', ∀ c ∈ part, isNameChar c = true ∧ c ≠ '.' := by
    refine fun part hpart c hc => ⟨h c ((sublist_of_mem_splitOnP hpart).subset hc), ?_⟩
    simpa using not_of_mem_splitOnP hpart c hc
  have hwritten : ∀ label ∈ labels, label.IsWritten := by
    intro label hlabel
    obtain ⟨part, hpart, rfl⟩ := List.mem_map.mp (hlabels ▸ hlabel)
    exact Label.isWritten_of_isNameChar (hplain part hpart) (hmark part hpart)
  have hdirections : directionsAllowed labels = true := by
    have hnone : labels.any Label.isRightToLeft = false := by
      refine List.any_eq_false.mpr fun label hlabel => ?_
      obtain ⟨part, hpart, rfl⟩ := List.mem_map.mp (hlabels ▸ hlabel)
      have hascii : ∀ c ∈ part, isAscii c = true :=
        fun c hc => (isNameChar_iff.mp (hplain part hpart c hc).1).1
      simp +contextual [Label.isRightToLeft, hascii]
    simp [directionsAllowed, hnone]
  have hread := labels_of_isWritten (by simp [hlabels]) hwritten
  rw [hname] at hread
  rw [toAscii?, hread, Option.bind_some, if_pos hdirections, hname]

end Permalink.Domain
