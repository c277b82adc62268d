import Permalink.Proofs.Recognizer.Builtin
import Permalink.Proofs.Url.Normal
import Permalink.Report
import Permalink.Sanitize

set_option autoImplicit false

namespace Permalink
open Text Url

namespace Tracking

theorem mem_pieces {query piece : List Char} (h : piece ∈ Form.pieces query) :
    piece ≠ [] ∧ '&' ∉ piece ∧ ∀ c ∈ piece, c ∈ query := by
  obtain ⟨hsplit, hne⟩ := List.mem_filter.mp h
  refine ⟨by simpa using hne, fun hmem => ?_, fun c hc => ?_⟩
  · simpa using not_of_mem_splitOnP hsplit '&' hmem
  · exact (sublist_of_mem_splitOnP hsplit).subset hc

theorem keptQuery_eq (query : List Char) : keptQuery? query =
    if (Form.pieces query).filter keeps = [] then none
    else some (['&'].intercalate ((Form.pieces query).filter keeps)) := by
  rw [keptQuery?]
  cases (Form.pieces query).filter keeps <;> simp

theorem pieces_of_keptQuery {query kept : List Char} (h : keptQuery? query = some kept) :
    Form.pieces kept = (Form.pieces query).filter keeps := by
  rw [keptQuery_eq] at h
  split at h
  · cases h
  · obtain rfl := Option.some.inj h
    have hpieces : ∀ piece ∈ (Form.pieces query).filter keeps, piece ≠ [] ∧ '&' ∉ piece := by
      intro piece hpiece
      obtain ⟨hne, hamp, _⟩ := mem_pieces (List.mem_of_mem_filter hpiece)
      exact ⟨hne, hamp⟩
    rw [Form.pieces_intercalate fun piece hpiece => (hpieces piece hpiece).2]
    exact List.filter_eq_self.mpr fun piece hpiece => by simpa using (hpieces piece hpiece).1

theorem mem_of_keptQuery {query kept : List Char} (h : keptQuery? query = some kept) {c : Char}
    (hc : c ∈ kept) : c = '&' ∨ c ∈ query := by
  rw [keptQuery_eq] at h
  split at h
  · cases h
  · obtain rfl := Option.some.inj h
    refine (mem_intercalate hc).imp_right fun ⟨piece, hpiece, hc⟩ => ?_
    exact (mem_pieces (List.mem_of_mem_filter hpiece)).2.2 c hc

def piecesOf (query : Option (List Char)) : List (List Char) := (query.map Form.pieces).getD []

theorem piecesOf_keptQuery (query : List Char) :
    piecesOf (keptQuery? query) = (Form.pieces query).filter keeps := by
  cases h : keptQuery? query with
  | some kept => exact pieces_of_keptQuery h
  | none =>
    rw [keptQuery_eq] at h
    split at h
    · rename_i hnil
      exact hnil.symm
    · cases h

theorem value_bind_eq_find (name : List Char) (query : Option (List Char)) :
    query.bind (Form.value? name) = ((piecesOf query).find? fun piece =>
      Form.pieceName piece == name && !(Form.pieceValue piece).isEmpty).map Form.pieceValue := by
  cases query with
  | none => rfl
  | some query => exact Form.value_eq_find name query

theorem value_keptQuery {name : List Char} (hname : isTracking name = false) (query : List Char) :
    (keptQuery? query).bind (Form.value? name) = Form.value? name query := by
  have hkeeps : ∀ piece, Form.pieceName piece = name → keeps piece = true := by
    intro piece hpiece
    simp [keeps, hpiece, hname]
  rw [Form.value_eq_find, value_bind_eq_find, piecesOf_keptQuery, List.find?_filter]
  congr 2
  funext piece
  rw [Bool.eq_iff_iff]
  simp +contextual [hkeeps]

def strip (url : Url) : Url := (stripUrl? url).getD url

theorem stripUrl_eq_some {url stripped : Url} (h : stripUrl? url = some stripped) :
    url.IsWeb ∧ ∃ query, url.query = some query ∧ (Form.pieces query).all keeps = false ∧
      stripped = { url with query := keptQuery? query } := by
  rw [stripUrl?] at h
  split at h
  · rename_i hweb
    obtain ⟨query, hquery, h⟩ := Option.bind_eq_some_iff.mp h
    split at h
    · cases h
    · rename_i hall
      exact ⟨hweb, query, hquery, by simpa using hall, (Option.some.inj h).symm⟩
  · cases h

theorem param_strip {name : String} (hname : isTracking name.toList = false) (url : Url) :
    (strip url).param? name = url.param? name := by
  rw [strip]
  cases h : stripUrl? url with
  | none => rfl
  | some stripped =>
    obtain ⟨_, query, hquery, _, rfl⟩ := stripUrl_eq_some h
    rw [Option.getD_some, param?, param?, hquery, value_keptQuery hname]
    rfl

theorem parts_strip (url : Url) : (strip url).scheme = url.scheme ∧
    (strip url).authority = url.authority ∧ (strip url).path = url.path ∧
      (strip url).fragment = url.fragment := by
  rw [strip]
  cases h : stripUrl? url with
  | none => exact ⟨rfl, rfl, rfl, rfl⟩
  | some stripped =>
    obtain ⟨_, query, _, _, rfl⟩ := stripUrl_eq_some h
    exact ⟨rfl, rfl, rfl, rfl⟩

theorem isNormal_of_stripUrl {url stripped : Url} (hurl : url.IsNormal)
    (h : stripUrl? url = some stripped) : stripped.IsNormal := by
  obtain ⟨_, query, hquery, _, rfl⟩ := stripUrl_eq_some h
  refine ⟨hurl.web, hurl.authority, hurl.path, fun kept hkept c hc => ?_, hurl.fragment⟩
  rcases mem_of_keptQuery hkept hc with rfl | hc
  · decide
  · exact hurl.query query hquery c hc

theorem stripUrl_of_stripUrl {url stripped : Url} (h : stripUrl? url = some stripped) :
    stripUrl? stripped = none := by
  obtain ⟨hweb, query, _, _, rfl⟩ := stripUrl_eq_some h
  refine (if_pos hweb).trans ?_
  cases hkept : keptQuery? query with
  | none => rfl
  | some kept =>
    have hall : (Form.pieces kept).all keeps = true := by
      rw [pieces_of_keptQuery hkept]
      exact List.all_eq_true.mpr fun piece hpiece => List.of_mem_filter hpiece
    rw [Option.bind_some, if_pos hall]

theorem stripTracking_of_none {link : String} (h : (parse? link).bind stripUrl? = none) :
    stripTracking link = link := by
  rw [stripTracking, h]
  rfl

theorem stripTracking_of_some {link : String} {url stripped : Url} (hurl : parse? link = some url)
    (h : stripUrl? url = some stripped) :
    stripTracking link = stripped.text ∧ stripped.IsNormal ∧
      parse? stripped.text = some stripped ∧ stripTracking stripped.text = stripped.text := by
  obtain ⟨hweb, _⟩ := stripUrl_eq_some h
  have hnormal := isNormal_of_stripUrl (isNormal_of_parse hurl hweb) h
  have hparse := hnormal.parse_text
  refine ⟨?_, hnormal, hparse, stripTracking_of_none ?_⟩
  · rw [stripTracking, hurl, Option.bind_some, h]
    rfl
  · rw [hparse, Option.bind_some, stripUrl_of_stripUrl h]

theorem parse_stripTracking (link : String) :
    parse? (stripTracking link) = (parse? link).map strip := by
  cases hurl : parse? link with
  | none =>
    rw [stripTracking_of_none (by rw [hurl]; rfl), hurl]
    rfl
  | some url =>
    rw [Option.map_some, strip]
    cases h : stripUrl? url with
    | none =>
      rw [stripTracking_of_none (by rw [hurl]; exact h)]
      exact hurl
    | some stripped =>
      obtain ⟨htext, _, hparse, _⟩ := stripTracking_of_some hurl h
      rw [htext]
      exact hparse

theorem stripTracking_stripTracking (link : String) :
    stripTracking (stripTracking link) = stripTracking link := by
  cases h : (parse? link).bind stripUrl? with
  | none =>
    rw [stripTracking_of_none h]
    exact stripTracking_of_none h
  | some stripped =>
    obtain ⟨url, hurl, hstrip⟩ := Option.bind_eq_some_iff.mp h
    obtain ⟨htext, _, _, hagain⟩ := stripTracking_of_some hurl hstrip
    rw [htext, hagain]

theorem recognize_strip (url : Url) : recognize? (strip url) = recognize? url := by
  obtain ⟨_, hauthority, hpath, _⟩ := parts_strip url
  have hhost : (strip url).host? = url.host? := by rw [host?, hauthority, host?]
  exact recognize_congr hhost hpath (param_strip (by decide) url) (param_strip (by decide) url)

end Tracking

theorem classify_stripTracking (link : String) : classify? (stripTracking link) = classify? link := by
  rw [classify_eq, classify_eq, Tracking.parse_stripTracking]
  cases parse? link with
  | none => rfl
  | some url => exact Tracking.recognize_strip url

/-- Dropping tracking parameters changes no classification, and so nothing in a report but the
URL. -/
theorem stripTracking_changes_only_url :
    (∀ link, classify? (stripTracking link) = classify? link) ∧
      ∀ (settings : Settings) (input : String),
        Report.ofInput { settings with stripTracking := true } input =
          { Report.ofInput { settings with stripTracking := false } input with
            url := (Report.ofInput { settings with stripTracking := true } input).url } := by
  refine ⟨classify_stripTracking, fun settings input => ?_⟩
  simp [Report.ofInput, Report.ofResource, Settings.prepare, classify_stripTracking]

namespace Tracking

def pairsOf (query : Option (List Char)) : List (List Char × List Char) :=
  (query.map Form.pairs).getD []

/-- A web URL with a parameter that tracks. -/
def HasTracking (url : Url) : Prop :=
  url.IsWeb ∧ ∃ pair ∈ pairsOf url.query, isTracking pair.1 = true

/-- The second URL is the first one without the parameters that track, and without a query if it has
no other ones. -/
structure LosesTracking (url stripped : Url) : Prop where
  scheme : stripped.scheme = url.scheme
  authority : stripped.authority = url.authority
  path : stripped.path = url.path
  fragment : stripped.fragment = url.fragment
  pieces : piecesOf stripped.query =
    (piecesOf url.query).filter fun piece => !isTracking (Form.pieceName piece)
  pairs : pairsOf stripped.query = (pairsOf url.query).filter fun pair => !isTracking pair.1
  query : stripped.query = none ↔ ∀ pair ∈ pairsOf url.query, isTracking pair.1 = true

theorem pairsOf_eq (query : Option (List Char)) : pairsOf query =
    (piecesOf query).map fun piece => (Form.pieceName piece, Form.pieceValue piece) := by
  cases query <;> rfl

theorem exists_pair_iff {query : List Char} :
    (∃ pair ∈ Form.pairs query, isTracking pair.1 = true) ↔
      (Form.pieces query).all keeps = false := by
  simp [Form.pairs, keeps]

theorem stripUrl_isSome_iff {url : Url} : (stripUrl? url).isSome ↔ HasTracking url := by
  rw [stripUrl?, HasTracking, IsWeb]
  split
  · rename_i hweb
    cases url.query with
    | none => simp [pairsOf]
    | some query =>
      have hpair : (∃ pair ∈ pairsOf (some query), isTracking pair.1 = true) ↔
          (Form.pieces query).all keeps = false := exists_pair_iff
      rw [hpair, Option.bind_some]
      cases (Form.pieces query).all keeps <;> simp [hweb]
  · rename_i hweb
    simp [hweb]

theorem keptQuery_eq_none_iff {query : List Char} :
    keptQuery? query = none ↔ ∀ pair ∈ Form.pairs query, isTracking pair.1 = true := by
  rw [keptQuery_eq]
  split <;> simp_all [Form.pairs, keeps, List.filter_eq_nil_iff]

theorem losesTracking_of_stripUrl {url stripped : Url} (h : stripUrl? url = some stripped) :
    LosesTracking url stripped := by
  obtain ⟨_, query, hquery, _, rfl⟩ := stripUrl_eq_some h
  have hpieces := piecesOf_keptQuery query
  refine ⟨rfl, rfl, rfl, rfl, ?_, ?_, ?_⟩
  · rw [hquery]
    exact hpieces
  · rw [pairsOf_eq, hpieces, hquery, pairsOf_eq, List.filter_map]
    rfl
  · rw [hquery]
    exact keptQuery_eq_none_iff

theorem mark_not_mem_text {url : Url} (h : url.IsNormal) (hquery : url.query = none) :
    '?' ∉ before '#' url.text.toList := by
  obtain ⟨authority, hsome, hauthority⟩ := h.authority
  obtain ⟨first, others, hpath, hliteral⟩ := h.path
  have hname : ∀ c ∈ url.scheme.name ++ [':'], c ≠ '#' ∧ c ≠ '?' := by
    rcases h.web with hscheme | hscheme <;> simp [hscheme, Scheme.name]
  have hfront : ∀ c ∈ url.scheme.name ++ [':'] ++
      '/' :: '/' :: (authority.text ++ url.path.text), c ≠ '#' ∧ c ≠ '?' := by
    intro c hc
    rcases List.mem_append.mp hc with hc | hc
    · exact hname c hc
    · rw [hpath] at hc
      exact (isVisible_of_mem_location hauthority hliteral hc).2
  have hchars : url.text.toList = (url.scheme.name ++ [':'] ++
      '/' :: '/' :: (authority.text ++ url.path.text)) ++ partText '#' url.fragment := by
    rw [text, String.toList_ofList, chars_eq hsome, hquery]
    simp [partText]
  have hhash : '#' ∉ url.scheme.name ++ [':'] ++
      '/' :: '/' :: (authority.text ++ url.path.text) := fun hmem => (hfront _ hmem).1 rfl
  rw [hchars, (cut_append_partText hhash url.fragment).1]
  exact fun hmem => (hfront _ hmem).2 rfl

end Tracking

/-- Without tracking parameters a link is left as it stands. With some, it is read as the URL that
has lost them and nothing else. -/
theorem stripTracking_removes_exactly (link : String) :
    ((∀ url, Url.parse? link = some url → ¬ Tracking.HasTracking url) →
      stripTracking link = link) ∧
    (∀ url, Url.parse? link = some url → Tracking.HasTracking url →
      ∃ stripped, Url.parse? (stripTracking link) = some stripped ∧
        Tracking.LosesTracking url stripped ∧
        (stripped.query = none → '?' ∉ before '#' (stripTracking link).toList)) ∧
    stripTracking (stripTracking link) = stripTracking link := by
  refine ⟨fun hnone => ?_, fun url hurl htracking => ?_, Tracking.stripTracking_stripTracking link⟩
  · refine Tracking.stripTracking_of_none ?_
    rw [Option.bind_eq_none_iff]
    intro url hurl
    rw [← Option.not_isSome_iff_eq_none, Tracking.stripUrl_isSome_iff]
    exact hnone url hurl
  · obtain ⟨stripped, hstrip⟩ :=
      Option.isSome_iff_exists.mp (Tracking.stripUrl_isSome_iff.mpr htracking)
    obtain ⟨htext, hnormal, hparse, _⟩ := Tracking.stripTracking_of_some hurl hstrip
    rw [htext]
    exact ⟨stripped, hparse, Tracking.losesTracking_of_stripUrl hstrip,
      Tracking.mark_not_mem_text hnormal⟩

/-- Names are compared decoded and in lower case, and only on the web. -/
theorem stripTracking_of_encoded_name :
    (∃ url stripped, Url.parse? "http://u:p@E.com:81/?x=%26&&UTM%5fa=1&%66eature&x=b+c#?si=" = some url ∧
      Tracking.HasTracking url ∧
      Url.parse? (stripTracking "http://u:p@E.com:81/?x=%26&&UTM%5fa=1&%66eature&x=b+c#?si=") =
        some stripped ∧ Tracking.LosesTracking url stripped) ∧
    stripTracking "mailto:a@e.com?utm_a=1" = "mailto:a@e.com?utm_a=1" := by
  constructor
  · obtain ⟨url, hurl⟩ := Option.isSome_iff_exists.mp (by decide +kernel :
      (Url.parse? "http://u:p@E.com:81/?x=%26&&UTM%5fa=1&%66eature&x=b+c#?si=").isSome)
    have htracking : Tracking.HasTracking url := by
      have hsome : ((Url.parse? "http://u:p@E.com:81/?x=%26&&UTM%5fa=1&%66eature&x=b+c#?si=").bind
        Tracking.stripUrl?).isSome := by decide +kernel
      rwa [hurl, Option.bind_some, Tracking.stripUrl_isSome_iff] at hsome
    obtain ⟨stripped, hparse, hloses, _⟩ := (stripTracking_removes_exactly _).2.1 url hurl htracking
    exact ⟨url, stripped, hurl, htracking, hparse, hloses⟩
  · refine (stripTracking_removes_exactly _).1 fun url hurl => ?_
    have hnone : (Url.parse? "mailto:a@e.com?utm_a=1").bind Tracking.stripUrl? = none := by
      decide +kernel
    rw [hurl, Option.bind_some] at hnone
    rw [← Tracking.stripUrl_isSome_iff, hnone]
    simp

end Permalink
