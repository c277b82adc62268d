import Permalink.Proofs.Url.Authority
import Permalink.Proofs.Url.Literal

set_option autoImplicit false

/-!
An `http` or `https` URL that was read has each part in normal form: no part holds a character that
would end it, be dropped or be encoded. Written out, such a URL is read as itself.
-/

namespace Permalink.Url
open Text Percent

/-- A URL with an authority, whose links are web pages. -/
def IsWeb (url : Url) : Prop := url.scheme = .http ∨ url.scheme = .https

structure IsNormal (url : Url) : Prop where
  web : url.IsWeb
  authority : ∃ authority, url.authority = some authority ∧ authority.IsWritten url.scheme
  path : ∃ first others, url.path = .rooted (first :: others) ∧
    ∀ s ∈ first :: others, Path.IsLiteral s
  query : ∀ query ∈ url.query, ∀ c ∈ query, c.toNat < 128 ∧ specialQuerySet c = false
  fragment : ∀ fragment ∈ url.fragment, ∀ c ∈ fragment, c.toNat < 128 ∧ fragmentSet c = false

theorem location_of_web {scheme : Scheme} (h : scheme = .http ∨ scheme = .https) (followed : Bool)
    (cs : List Char) : location? scheme followed cs =
      (specialLocation? scheme cs).map fun (authority, path) => (some authority, path) := by
  rcases h with rfl | rfl <;> rfl

theorem querySetOf_of_web {scheme : Scheme} (h : scheme = .http ∨ scheme = .https) :
    querySetOf scheme = specialQuerySet := by
  rcases h with rfl | rfl <;> rfl

theorem isSpecial_of_web {scheme : Scheme} (h : scheme = .http ∨ scheme = .https) :
    scheme.isSpecial = true := by
  rcases h with rfl | rfl <;> rfl

theorem isWritten_of_specialLocation {scheme : Scheme} {cs : List Char} {authority : Authority}
    {path : Path} (hspecial : scheme.isSpecial = true)
    (h : specialLocation? scheme cs = some (authority, path)) : authority.IsWritten scheme ∧
      ∃ first others, path = .rooted (first :: others) ∧
        ∀ s ∈ first :: others, Path.IsLiteral s := by
  obtain ⟨⟨found, left⟩, hfound, heq⟩ := Option.map_eq_some_iff.mp h
  obtain ⟨rfl, rfl⟩ := Prod.mk.inj heq
  exact ⟨Authority.isWritten_of_ofText hspecial hfound, Path.ofSpecialText_eq_rooted _⟩

theorem isNormal_of_parse {link : String} {url : Url} (h : parse? link = some url)
    (hweb : url.IsWeb) : url.IsNormal := by
  obtain ⟨⟨scheme, rest⟩, _, h⟩ := Option.bind_eq_some_iff.mp h
  obtain ⟨⟨location, path⟩, hlocation, rfl⟩ := Option.map_eq_some_iff.mp h
  have hscheme : scheme = .http ∨ scheme = .https := hweb
  rw [location_of_web hscheme] at hlocation
  obtain ⟨⟨authority, _⟩, hspecial, heq⟩ := Option.map_eq_some_iff.mp hlocation
  obtain ⟨rfl, rfl⟩ := Prod.mk.inj heq
  obtain ⟨hauthority, hpath⟩ := isWritten_of_specialLocation (isSpecial_of_web hscheme) hspecial
  refine ⟨hweb, ⟨authority, rfl, hauthority⟩, hpath, fun query hq => ?_, fun fragment hf => ?_⟩
  · obtain ⟨cs, _, rfl⟩ := Option.map_eq_some_iff.mp hq
    rw [querySetOf_of_web hscheme]
    exact kept_of_mem_encode (by decide) (by decide)
  · obtain ⟨cs, _, rfl⟩ := Option.map_eq_some_iff.mp hf
    exact kept_of_mem_encode (by decide) (by decide)

theorem isInert_iff {c : Char} : isInert c = true ↔
    isVisible c = true ∧ Path.isAnySlash c = false ∧ c ≠ '#' ∧ c ≠ '?' := by
  simp [isInert, and_assoc]

theorem isVisible_kept {c : Char} (h : isVisible c = true) :
    isEdge c = false ∧ isKept c = true ∧ isBlank c = false := by
  have hascii : c.toNat < 128 := by
    rw [isVisible, Bool.and_eq_true, decide_eq_true_eq, decide_eq_true_eq] at h
    exact h.2
  exact Form.forall_ascii
    (p := fun c => isVisible c = true → isEdge c = false ∧ isKept c = true ∧ isBlank c = false)
    (by decide +kernel) hascii h

theorem dropWhile_eq_self {p : Char → Bool} {cs : List Char} (h : ∀ c ∈ cs, p c = false) :
    cs.dropWhile p = cs :=
  List.dropWhile_eq_self_iff.mpr fun hpos => by simpa using h _ (List.getElem_mem hpos)

theorem cleanseEnd_eq_self_of_isVisible {cs : List Char} (h : ∀ c ∈ cs, isVisible c = true) :
    cleanseEnd cs = cs :=
  cleanseEnd_eq_self_iff.mpr ⟨fun c hc => (isVisible_kept (h c (List.mem_of_getLast? hc))).1,
    fun c hc => (isVisible_kept (h c hc)).2.1⟩

theorem cleanse_eq_self {cs : List Char} (h : ∀ c ∈ cs, isVisible c = true) : cleanse cs = cs := by
  change cleanseEnd (cs.dropWhile isEdge) = cs
  rw [dropWhile_eq_self fun c hc => (isVisible_kept (h c hc)).1]
  exact cleanseEnd_eq_self_of_isVisible h

theorem isFront_of_isVisible {front : List Char} (h : ∀ c ∈ front, isVisible c = true) :
    IsFront front := by
  have hedge : ∀ c ∈ front, isEdge c = false := fun c hc => (isVisible_kept (h c hc)).1
  refine ⟨dropWhile_eq_self hedge, ?_, List.filter_eq_self.mpr fun c hc => ?_⟩
  · exact List.rdropWhile_eq_self_iff.mpr fun hne => by
      simpa using hedge _ (List.getLast_mem hne)
  · exact (isVisible_kept (h c hc)).2.1

theorem trim_eq_self {cs : List Char} (h : ∀ c ∈ cs, isVisible c = true) :
    trim (String.ofList cs) = String.ofList cs := by
  have hblank : ∀ c ∈ cs, isBlank c = false := fun c hc => (isVisible_kept (h c hc)).2.2
  have hend : dropEndWhile isBlank cs = cs := by
    have hreverse : ∀ c ∈ cs.reverse, isBlank c = false := by simpa using hblank
    rw [dropEndWhile, dropWhile_eq_self hreverse, List.reverse_reverse]
  rw [trim, String.toList_ofList, trimChars, dropWhile_eq_self hblank]
  exact congrArg String.ofList hend

theorem specialLocation_append {scheme : Scheme} {authority : Authority}
    (h : authority.IsWritten scheme) (path : List Char) :
    specialLocation? scheme ('/' :: '/' :: (authority.text ++ '/' :: path)) =
      some (authority, Path.ofSpecialText ('/' :: path)) := by
  have hplain : ∀ c ∈ authority.text, (!Path.isAnySlash c) = true := fun c hc => by
    simp [(isInert_iff.mp (h.inert c hc)).2.1]
  have hslash : Path.isAnySlash '/' = true := rfl
  have hdrop : ('/' :: '/' :: (authority.text ++ '/' :: path)).dropWhile Path.isAnySlash =
      authority.text ++ '/' :: path := by
    obtain ⟨c, rest, htext⟩ := List.exists_cons_of_ne_nil h.nonempty
    have hc : Path.isAnySlash c = false := by simpa using hplain c (by simp [htext])
    simp [htext, hc, hslash]
  unfold specialLocation?
  simp only [hdrop]
  rw [List.takeWhile_append_of_pos hplain, List.dropWhile_append_of_pos hplain]
  simp [hslash, h.read]

theorem specialLocation_text {scheme : Scheme} {authority : Authority} {first : List Char}
    {others : List (List Char)} (hauthority : authority.IsWritten scheme)
    (hpath : ∀ s ∈ first :: others, Path.IsLiteral s) :
    specialLocation? scheme
        ('/' :: '/' :: (authority.text ++ (Path.rooted (first :: others)).text)) =
      some (authority, .rooted (first :: others)) := by
  have htext : (Path.rooted (first :: others)).text =
      '/' :: (first ++ others.flatMap ('/' :: ·)) := rfl
  rw [htext, specialLocation_append hauthority, ← htext, Path.ofSpecialText_text hpath]

theorem Scheme.read_of_web {scheme : Scheme} (h : scheme = .http ∨ scheme = .https)
    (rest : List Char) : Scheme.read? (scheme.name ++ ':' :: rest) = some (scheme, rest) := by
  rcases h with rfl | rfl <;> rfl

theorem chars_eq {url : Url} {authority : Authority} (h : url.authority = some authority) :
    url.chars = url.scheme.name ++ ':' ::
      ('/' :: '/' :: (authority.text ++ url.path.text) ++ partText '?' url.query ++
        partText '#' url.fragment) := by
  simp [chars, h, partText]

variable {url : Url}

theorem isVisible_of_mem_path {segments : List (List Char)}
    (h : ∀ s ∈ segments, Path.IsLiteral s) {c : Char} (hc : c ∈ (Path.rooted segments).text) :
    isVisible c = true ∧ c ≠ '#' ∧ c ≠ '?' := by
  obtain ⟨s, hs, hc⟩ := List.mem_flatMap.mp hc
  rcases List.mem_cons.mp hc with rfl | hc
  · decide
  · obtain ⟨hascii, hset, _⟩ := (h s hs).plain c hc
    exact Form.forall_ascii
      (p := fun c => pathSet c = false → isVisible c = true ∧ c ≠ '#' ∧ c ≠ '?')
      (by decide +kernel) hascii hset

theorem isVisible_of_mem_location {authority : Authority} {segments : List (List Char)}
    (hauthority : authority.IsWritten url.scheme) (h : ∀ s ∈ segments, Path.IsLiteral s) {c : Char}
    (hc : c ∈ '/' :: '/' :: (authority.text ++ (Path.rooted segments).text)) :
    isVisible c = true ∧ c ≠ '#' ∧ c ≠ '?' := by
  rw [List.mem_cons, List.mem_cons, List.mem_append] at hc
  rcases hc with rfl | rfl | hc | hc
  · decide
  · decide
  · obtain ⟨hvisible, _, hmarks⟩ := isInert_iff.mp (hauthority.inert c hc)
    exact ⟨hvisible, hmarks⟩
  · exact isVisible_of_mem_path h hc

theorem IsNormal.isVisible_of_mem_query (h : url.IsNormal) {c : Char}
    (hc : c ∈ partText '?' url.query) : isVisible c = true ∧ c ≠ '#' := by
  rcases mem_partText hc with rfl | ⟨query, hquery, hc⟩
  · decide
  · obtain ⟨hascii, hset⟩ := h.query query hquery c hc
    exact Form.forall_ascii (p := fun c => specialQuerySet c = false → isVisible c = true ∧ c ≠ '#')
      (by decide +kernel) hascii hset

theorem IsNormal.isVisible_of_mem_fragment (h : url.IsNormal) {c : Char}
    (hc : c ∈ partText '#' url.fragment) : isVisible c = true := by
  rcases mem_partText hc with rfl | ⟨fragment, hfragment, hc⟩
  · decide
  · obtain ⟨hascii, hset⟩ := h.fragment fragment hfragment c hc
    exact Form.forall_ascii (p := fun c => fragmentSet c = false → isVisible c = true)
      (by decide +kernel) hascii hset

theorem isVisible_of_mem_name {scheme : Scheme} (h : scheme = .http ∨ scheme = .https) :
    ∀ c ∈ scheme.name, isVisible c = true := by
  have hall : scheme.name.all isVisible = true := by
    rcases h with rfl | rfl <;> decide
  simpa using hall

theorem IsNormal.isVisible_of_mem_chars (h : url.IsNormal) :
    ∀ c ∈ url.chars, isVisible c = true := by
  obtain ⟨authority, hsome, hauthority⟩ := h.authority
  obtain ⟨first, others, hpath, hliteral⟩ := h.path
  intro c hc
  rw [chars_eq hsome, hpath, List.mem_append, List.mem_cons, List.mem_append, List.mem_append] at hc
  rcases hc with hc | rfl | (hc | hc) | hc
  · exact isVisible_of_mem_name h.web c hc
  · decide
  · exact (isVisible_of_mem_location hauthority hliteral hc).1
  · exact (h.isVisible_of_mem_query hc).1
  · exact h.isVisible_of_mem_fragment hc

theorem map_encode_eq_self {set : EncodeSet} {part : Option (List Char)}
    (h : ∀ cs ∈ part, ∀ c ∈ cs, c.toNat < 128 ∧ set c = false) : part.map (encode set) = part := by
  cases part with
  | none => rfl
  | some cs => exact congrArg some (encode_eq_self (h cs rfl))

/-- A web URL that was read, written out, is read as itself. -/
theorem IsNormal.parse_text (h : url.IsNormal) : parse? url.text = some url := by
  obtain ⟨authority, hsome, hauthority⟩ := h.authority
  obtain ⟨first, others, hpath, hliteral⟩ := h.path
  have hlocation {c : Char} := hpath ▸ @isVisible_of_mem_location url authority _ hauthority hliteral c
  have hsharp : '#' ∉ '/' :: '/' :: (authority.text ++ url.path.text) ++ partText '?' url.query := by
    intro hmem
    rcases List.mem_append.mp hmem with hmem | hmem
    · exact (hlocation hmem).2.1 rfl
    · exact (h.isVisible_of_mem_query hmem).2 rfl
  have hmark : '?' ∉ '/' :: '/' :: (authority.text ++ url.path.text) := fun hmem =>
    (hlocation hmem).2.2 rfl
  obtain ⟨hbody, hfragment⟩ := cut_append_partText hsharp url.fragment
  obtain ⟨hfront, hquery⟩ := cut_append_partText hmark url.query
  have hspecial := specialLocation_text hauthority hliteral
  rw [← hpath] at hspecial
  rw [parse?, text, String.toList_ofList, ofChars?, cleanse_eq_self h.isVisible_of_mem_chars,
    chars_eq hsome, Scheme.read_of_web h.web, Option.bind_some]
  simp only [hbody, hfragment, hfront, hquery, location_of_web h.web, hspecial, Option.map_some,
    querySetOf_of_web h.web, map_encode_eq_self h.query, map_encode_eq_self h.fragment, ← hsome]

theorem IsNormal.trim_text (h : url.IsNormal) : trim url.text = url.text :=
  trim_eq_self h.isVisible_of_mem_chars

theorem host_infix_text {host : String} (h : url.host? = some host) :
    host.toList <:+: url.text.toList := by
  obtain ⟨found, hfound, rfl⟩ := Option.map_eq_some_iff.mp h
  obtain ⟨authority, hsome, hhost⟩ := Option.bind_eq_some_iff.mp hfound
  have hinner : found.text <:+: authority.text := by
    rw [Authority.text_eq, hhost]
    exact ⟨_, _, List.append_assoc _ _ _⟩
  have houter : authority.text <:+: url.chars := by
    rw [chars_eq hsome]
    refine ⟨url.scheme.name ++ [':', '/', '/'],
      url.path.text ++ partText '?' url.query ++ partText '#' url.fragment, ?_⟩
    simp
  rw [text, String.toList_ofList, String.toList_ofList]
  exact hinner.trans houter

end Permalink.Url
