import Permalink.Proofs.Url.Normal

set_option autoImplicit false

namespace Permalink.Url
open Text

def Authority.ofName (name : List Char) : Authority := ⟨[], [], some (.domain name), none⟩

theorem Authority.text_ofName (name : List Char) : (ofName name).text = name := by
  simp [text, ofName, userinfo, Host.text]

/-- A name that a URL has as its host just as it is written. -/
def IsSite (name : List Char) : Prop := (Authority.ofName name).IsWritten .https

theorem isSite_of_ofText {name : List Char}
    (h : Authority.ofText? .https true name = some (.ofName name, [])) : IsSite name :=
  Authority.isWritten_of_ofText rfl h

def atSite (name tail : List Char) : Url :=
  let body := before '#' (cleanseEnd tail)
  { scheme := .https
    authority := some (.ofName name)
    path := Path.ofSpecialText ('/' :: before '?' body)
    query := (after? '?' body).map (Percent.encode (querySetOf .https))
    fragment := (after? '#' (cleanseEnd tail)).map (Percent.encode Percent.fragmentSet) }

variable {name : List Char}

theorem host_atSite (name tail : List Char) :
    (atSite name tail).host? = some (String.ofList name) := rfl

theorem path_atSite (name tail : List Char) : (atSite name tail).path =
    Path.ofSpecialText ('/' :: before '?' (before '#' (cleanseEnd tail))) := rfl

theorem query_atSite (name tail : List Char) : (atSite name tail).query =
    (after? '?' (before '#' (cleanseEnd tail))).map (Percent.encode (querySetOf .https)) := rfl

theorem IsSite.inert (h : IsSite name) : ∀ c ∈ name, isInert c = true := by
  have hinert := Authority.IsWritten.inert h
  rwa [Authority.text_ofName] at hinert

theorem IsSite.address (h : IsSite name) : ∀ c ∈ "https://".toList ++ (name ++ ['/']),
    isVisible c = true ∧ c ≠ '#' ∧ c ≠ '?' := by
  have hscheme : "https://".toList.all fun c => isVisible c && c != '#' && c != '?' := by decide
  simp only [List.mem_append, List.mem_singleton]
  rintro c (hc | hc | rfl)
  · simpa [and_assoc] using List.all_eq_true.mp hscheme c hc
  · obtain ⟨hvisible, _, hmarks⟩ := isInert_iff.mp (h.inert c hc)
    exact ⟨hvisible, hmarks⟩
  · decide

theorem IsSite.not_mem_location (h : IsSite name) :
    '#' ∉ '/' :: '/' :: (name ++ ['/']) ∧ '?' ∉ '/' :: '/' :: (name ++ ['/']) := by
  have hmem {c : Char} (hc : c ∈ '/' :: '/' :: (name ++ ['/'])) : c ≠ '#' ∧ c ≠ '?' :=
    (h.address c (List.mem_append_right "https:".toList hc)).2
  exact ⟨fun hc => (hmem hc).1 rfl, fun hc => (hmem hc).2 rfl⟩

theorem IsSite.location (h : IsSite name) (followed : Bool) (path : List Char) :
    location? .https followed ('/' :: '/' :: (name ++ ['/']) ++ path) =
      some (some (.ofName name), Path.ofSpecialText ('/' :: path)) := by
  have htext : '/' :: '/' :: (name ++ ['/']) ++ path =
      '/' :: '/' :: ((Authority.ofName name).text ++ '/' :: path) := by
    simp [Authority.text_ofName]
  rw [htext, location_of_web (.inr rfl), specialLocation_append h]
  rfl

/-- Whatever follows the address of a site, the text is a URL at the site. -/
theorem ofChars_site (h : IsSite name) (tail : List Char) :
    ofChars? ("https://".toList ++ (name ++ '/' :: tail)) = some (atSite name tail) := by
  have hfront := isFront_of_isVisible fun c hc => (h.address c hc).1
  have hcleanse : cleanse ("https://".toList ++ (name ++ '/' :: tail)) =
      "https".toList ++ ':' :: ('/' :: '/' :: (name ++ ['/']) ++ cleanseEnd tail) := by
    simpa using hfront.cleanse_append (by simp) tail
  have hread : Scheme.read? (cleanse ("https://".toList ++ (name ++ '/' :: tail))) =
      some (.https, '/' :: '/' :: (name ++ ['/']) ++ cleanseEnd tail) := by
    rw [hcleanse]
    exact Scheme.read_of_web (.inr rfl) _
  obtain ⟨hsharp, hmark⟩ := h.not_mem_location
  rw [ofChars?, hread, Option.bind_some]
  simp only [before_append_of_not_mem hsharp, after_append_of_not_mem hsharp,
    before_append_of_not_mem hmark, after_append_of_not_mem hmark, h.location]
  rfl

section End
variable {front : List Char}

theorem body_append (hfront : IsFront front) (hsharp : '#' ∉ front) (v : List Char) :
    before '#' (cleanseEnd (front ++ v)) = front ++ before '#' (cleanseEnd v) := by
  rw [hfront.cleanseEnd_append, before_append_of_not_mem hsharp]

theorem path_atSite_append (hfront : IsFront front) (hsharp : '#' ∉ front) (v : List Char) :
    (atSite name (front ++ v)).path =
      Path.ofSpecialText ('/' :: before '?' (front ++ before '#' (cleanseEnd v))) := by
  rw [path_atSite, body_append hfront hsharp]

theorem param_atSite_append (hfront : IsFront front) (hsharp : '#' ∉ front) (v : List Char)
    (key : String) : (atSite name (front ++ v)).param? key =
      ((after? '?' (front ++ before '#' (cleanseEnd v))).bind (Form.value? key.toList)).map
        String.ofList := by
  rw [← body_append hfront hsharp]
  exact param_eq_of_query rfl key

end End

section Page
variable {page : List Char} {query : Option (List Char)}

theorem body_page (h : ∀ c ∈ page ++ partText '?' query, isVisible c = true ∧ c ≠ '#') :
    before '#' (cleanseEnd (page ++ partText '?' query)) = page ++ partText '?' query := by
  rw [cleanseEnd_eq_self_of_isVisible fun c hc => (h c hc).1]
  exact before_eq_self_of_not_mem fun hmem => (h _ hmem).2 rfl

theorem path_atSite_page (h : ∀ c ∈ page ++ partText '?' query, isVisible c = true ∧ c ≠ '#')
    (hmark : '?' ∉ page) :
    (atSite name (page ++ partText '?' query)).path = Path.ofSpecialText ('/' :: page) := by
  rw [path_atSite, body_page h, (cut_append_partText hmark query).1]

theorem param_atSite_page (h : ∀ c ∈ page ++ partText '?' query, isVisible c = true ∧ c ≠ '#')
    (hmark : '?' ∉ page) (key : String) : (atSite name (page ++ partText '?' query)).param? key =
      (query.bind (Form.value? key.toList)).map String.ofList := by
  have hquery : (atSite name (page ++ partText '?' query)).query =
      query.map (Percent.encode (querySetOf .https)) := by
    rw [query_atSite, body_page h, (cut_append_partText hmark query).2]
  exact param_eq_of_query hquery key

end Page

end Permalink.Url
