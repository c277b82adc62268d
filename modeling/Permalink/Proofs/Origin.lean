import Permalink.Proofs.Url.Site
import Permalink.Resource

set_option autoImplicit false

namespace Permalink
open Text Url

def Service.host : Service → List Char
  | youtube => "www.youtube.com".toList
  | odysee => "odysee.com".toList
  | reddit => "www.reddit.com".toList

namespace Service

def authority (service : Service) : Authority := ⟨[], [], some (.domain service.host), none⟩

/-- The URL that a tail gives after the origin and a slash. -/
def urlAt (service : Service) (tail : List Char) : Url :=
  let body := before '#' (cleanseEnd tail)
  { scheme := .https
    authority := some service.authority
    path := Path.ofSpecialText ('/' :: before '?' body)
    query := (after? '?' body).map (Percent.encode (querySetOf .https))
    fragment := (after? '#' (cleanseEnd tail)).map (Percent.encode Percent.fragmentSet) }

theorem toList_origin (service : Service) :
    service.origin.toList = "https://".toList ++ service.host := by
  cases service <;> decide

theorem authority_ofText (service : Service) :
    Authority.ofText? .https true service.host = some (service.authority, []) := by
  cases service <;> decide

theorem isSite_host (service : Service) : IsSite service.host :=
  isSite_of_ofText service.authority_ofText

theorem urlAt_eq (service : Service) (tail : List Char) :
    service.urlAt tail = atSite service.host tail := rfl

theorem parse_origin (service : Service) (tail : String) :
    parse? (service.origin ++ "/" ++ tail) = some (service.urlAt tail.toList) := by
  rw [parse?, String.toList_append, String.toList_append, toList_origin, List.append_assoc,
    List.append_assoc]
  exact ofChars_site service.isSite_host tail.toList

theorem origin_append {service : Service} {path page : String} (h : path = "/" ++ page)
    (rest : String) : service.origin ++ path ++ rest = service.origin ++ "/" ++ (page ++ rest) := by
  rw [h]
  simp only [String.append_assoc]

theorem host_urlAt (service : Service) (tail : List Char) :
    (service.urlAt tail).host? = some (String.ofList service.host) := rfl

section End
variable {front : List Char}

theorem path_urlAt_append (service : Service) (hfront : IsFront front) (hsharp : '#' ∉ front)
    (v : List Char) : (service.urlAt (front ++ v)).path =
      Path.ofSpecialText ('/' :: before '?' (front ++ before '#' (cleanseEnd v))) :=
  path_atSite_append hfront hsharp v

theorem param_urlAt_append (service : Service) (hfront : IsFront front) (hsharp : '#' ∉ front)
    (v : List Char) (key : String) : (service.urlAt (front ++ v)).param? key =
      ((after? '?' (front ++ before '#' (cleanseEnd v))).bind (Form.value? key.toList)).map
        String.ofList :=
  param_atSite_append hfront hsharp v key

/-- No parameter has the whole of what is written after the query began. -/
theorem param_urlAt_ne (service : Service) (hfront : IsFront front) (hsharp : '#' ∉ front)
    (hmark : '?' ∉ front) (key v : String) :
    (service.urlAt (front ++ v.toList)).param? key ≠ some v := by
  intro h
  rw [param_urlAt_append service hfront hsharp, after_append_of_not_mem hmark] at h
  obtain ⟨value, hvalue, rfl⟩ := Option.map_eq_some_iff.mp h
  obtain ⟨query, hquery, hvalue⟩ := Option.bind_eq_some_iff.mp hvalue
  have hle := Form.size_value_le hvalue
  have hsub := size_le_of_sublist
    ((after_suffix hquery).sublist.trans (before_cleanseEnd_sublist '#' _))
  have hpos := ('?').utf8Size_pos
  rw [String.toList_ofList, size_cons] at hsub
  omega

theorem isLiteral_of_mem_segments {service : Service} {tail : List Char} {segment : String}
    (h : segment ∈ (service.urlAt tail).segments) : Path.IsLiteral segment.toList := by
  obtain ⟨s, hs, rfl⟩ := List.mem_map.mp h
  rw [String.toList_ofList]
  exact Path.isLiteral_of_mem_resolve_split (List.mem_of_mem_filter hs)

theorem urlAt_literal (service : Service) {page segment : List Char} (hpage : Path.IsLiteral page)
    (hsegment : Path.IsLiteral segment) :
    (service.urlAt (page ++ ['/'] ++ segment)).path = .rooted [page, segment] ∧
      ∀ key, (service.urlAt (page ++ ['/'] ++ segment)).param? key = none := by
  obtain ⟨_, hsharp, hmark⟩ := hpage.cleanseEnd_eq
  obtain ⟨hend, hsharp', hmark'⟩ := hsegment.cleanseEnd_eq
  have hs : '#' ∉ page ++ ['/'] := by simp [hsharp]
  have hm : '?' ∉ page ++ ['/'] ++ segment := by simp [hmark, hmark']
  constructor
  · have htext : '/' :: (page ++ ['/'] ++ segment) = (Path.rooted [page, segment]).text := by
      simp [Path.text]
    rw [path_urlAt_append service hpage.isFront hs, hend, before_eq_self_of_not_mem hsharp',
      before_eq_self_of_not_mem hm, htext]
    exact Path.ofSpecialText_text (by simp [hpage, hsegment])
  · intro key
    rw [param_urlAt_append service hpage.isFront hs, hend, before_eq_self_of_not_mem hsharp',
      after_eq_none_iff.mpr hm]
    rfl

end End

/-- What follows the page, a question mark, the name and an equals sign is the value of a
parameter. -/
structure IsForm (page name : List Char) : Prop where
  front : IsFront (page ++ '?' :: (name ++ ['=']))
  sharp : '#' ∉ page ++ '?' :: (name ++ ['='])
  mark : '?' ∉ page
  decoded : Form.decodeText name = name
  equals : '=' ∉ name
  ampersand : '&' ∉ name

instance (page name : List Char) : Decidable (IsForm page name) :=
  decidable_of_iff (IsFront (page ++ '?' :: (name ++ ['='])) ∧
      '#' ∉ page ++ '?' :: (name ++ ['=']) ∧ '?' ∉ page ∧ Form.decodeText name = name ∧
      '=' ∉ name ∧ '&' ∉ name)
    ⟨fun ⟨hfront, hsharp, hmark, hdecoded, hequals, hampersand⟩ =>
        ⟨hfront, hsharp, hmark, hdecoded, hequals, hampersand⟩,
      fun h => ⟨h.front, h.sharp, h.mark, h.decoded, h.equals, h.ampersand⟩⟩

section Form
variable {page name : List Char}

theorem path_urlAt_form (service : Service) (h : IsForm page name) (v : List Char) :
    (service.urlAt (page ++ '?' :: (name ++ ['=']) ++ v)).path =
      Path.ofSpecialText ('/' :: page) := by
  rw [path_urlAt_append service h.front h.sharp, List.append_assoc, before_append_of_not_mem h.mark]
  simp [before]

theorem param_urlAt_form (service : Service) (h : IsForm page name) (v : List Char)
    (key : String) : (service.urlAt (page ++ '?' :: (name ++ ['=']) ++ v)).param? key =
      (Form.value? key.toList (name ++ '=' :: before '#' (cleanseEnd v))).map String.ofList := by
  rw [param_urlAt_append service h.front h.sharp, List.append_assoc, after_append_of_not_mem h.mark]
  simp [after?]

theorem param_urlAt_form_iff (service : Service) (h : IsForm page name) {v : String} (hv : v ≠ "") :
    (service.urlAt (page ++ '?' :: (name ++ ['=']) ++ v.toList)).param? (String.ofList name) =
      some v ↔ Form.IsLiteral v.toList := by
  have hne : v.toList ≠ [] := by simpa using hv
  rw [← Form.value_assign_cleanseEnd_iff h.decoded h.equals h.ampersand hne,
    param_urlAt_form service h, String.toList_ofList, Option.map_eq_some_iff]
  constructor
  · rintro ⟨value, hvalue, rfl⟩
    rw [String.toList_ofList] at hvalue ⊢
    exact hvalue
  · intro hvalue
    exact ⟨v.toList, hvalue, v.ofList_toList⟩

/-- A literal value defines no other parameter. -/
theorem param_urlAt_form_of_ne (service : Service) (h : IsForm page name) {v : List Char}
    (hv : Form.IsLiteral v) {key : String} (hkey : key.toList ≠ name) :
    (service.urlAt (page ++ '?' :: (name ++ ['=']) ++ v)).param? key = none := by
  obtain ⟨hend, hamp, _⟩ := Form.isLiteral_iff.mp hv
  rw [param_urlAt_form service h, hend,
    Form.value_assign_of_not_mem h.equals h.ampersand hamp, h.decoded, if_neg]
  · rfl
  · exact fun hp => hkey hp.1.symm

end Form

end Service

def Resource.urls (resource : Resource) : List String :=
  resource.canonicalUrl?.toList ++ resource.alternateUrls ++ resource.feedUrls ++
    resource.embedUrl?.toList ++ resource.channelUrl?.toList

/-- The URL is at the host of the service by `https`, with neither credentials nor a port. -/
structure Service.IsAt (service : Service) (url : Url) : Prop where
  scheme : url.scheme = .https
  host : url.host? = some (String.ofList service.host)
  authority : ∃ authority, url.authority = some authority ∧ authority.username = [] ∧
    authority.password = [] ∧ authority.port = none

theorem Service.isAt_urlAt (service : Service) (tail : List Char) :
    service.IsAt (service.urlAt tail) :=
  ⟨rfl, service.host_urlAt tail, service.authority, rfl, rfl, rfl, rfl⟩

def Service.IsBelow (service : Service) (link : String) : Prop :=
  ∃ tail, link = service.origin ++ "/" ++ tail

theorem Service.isBelow_page {service : Service} {path : String} (page : String)
    (h : path = "/" ++ page) : service.IsBelow (service.origin ++ path) :=
  ⟨page, by rw [h, String.append_assoc]⟩

theorem Service.IsBelow.append {service : Service} {link : String} (h : service.IsBelow link)
    (more : String) : service.IsBelow (link ++ more) := by
  obtain ⟨tail, rfl⟩ := h
  exact ⟨tail ++ more, String.append_assoc⟩

namespace Resource
variable {resource : Resource} {link : String}

theorem isBelow_of_canonicalUrl (h : resource.canonicalUrl? = some link) :
    resource.service.IsBelow link := by
  cases resource with
  | youtubeVideo id =>
    obtain rfl := Option.some.inj h
    exact (Service.isBelow_page "watch?v=" rfl).append id
  | youtubeChannel id =>
    obtain rfl := Option.some.inj h
    exact (Service.isBelow_page "channel/" rfl).append id
  | odyseeVideo id channel =>
    obtain ⟨channel, _, rfl⟩ := Option.map_eq_some_iff.mp h
    exact (((Service.isBelow_page "" rfl).append channel).append "/").append id
  | odyseeChannel id =>
    obtain rfl := Option.some.inj h
    exact (Service.isBelow_page "" rfl).append id
  | subreddit name =>
    obtain rfl := Option.some.inj h
    exact ((Service.isBelow_page "r/" rfl).append name).append "/"

theorem isBelow_odyseeFeedUrl (channel : String) : Service.odysee.IsBelow (odyseeFeedUrl channel) :=
  (Service.isBelow_page "$/rss/" rfl).append channel

theorem isBelow_of_mem_feedUrls (h : link ∈ resource.feedUrls) :
    resource.service.IsBelow link := by
  cases resource with
  | youtubeVideo id => cases h
  | youtubeChannel id =>
    rw [List.mem_singleton.mp h]
    exact (Service.isBelow_page "feeds/videos.xml?channel_id=" rfl).append id
  | odyseeVideo id channel =>
    obtain ⟨channel, _, rfl⟩ := Option.map_eq_some_iff.mp (Option.mem_toList.mp h)
    exact isBelow_odyseeFeedUrl channel
  | odyseeChannel id =>
    rw [List.mem_singleton.mp h]
    exact isBelow_odyseeFeedUrl id
  | subreddit name =>
    rw [List.mem_singleton.mp h]
    exact ((Service.isBelow_page "r/" rfl).append name).append "/.rss"

theorem isBelow_of_embedUrl (h : resource.embedUrl? = some link) :
    resource.service.IsBelow link := by
  cases resource with
  | youtubeVideo id =>
    obtain rfl := Option.some.inj h
    exact (Service.isBelow_page "embed/" rfl).append id
  | odyseeVideo id channel =>
    obtain rfl := Option.some.inj h
    exact (Service.isBelow_page "$/embed/" rfl).append id
  | youtubeChannel | odyseeChannel | subreddit => cases h

theorem isBelow_of_channelUrl (h : resource.channelUrl? = some link) :
    resource.service.IsBelow link := by
  cases resource with
  | youtubeVideo id => cases h
  | odyseeVideo id channel =>
    obtain ⟨channel, _, rfl⟩ := Option.map_eq_some_iff.mp h
    exact (Service.isBelow_page "" rfl).append channel
  -- A channel is its own channel.
  | youtubeChannel | odyseeChannel | subreddit => exact isBelow_of_canonicalUrl h

theorem isBelow_of_mem_urls (h : link ∈ resource.urls) : resource.service.IsBelow link := by
  simp only [urls, alternateUrls, List.mem_append, Option.mem_toList] at h
  rcases h with (((h | h) | h) | h) | h
  · exact isBelow_of_canonicalUrl h
  · exact isBelow_of_canonicalUrl h
  · exact isBelow_of_mem_feedUrls h
  · exact isBelow_of_embedUrl h
  · exact isBelow_of_channelUrl h

end Resource

/-- Whatever the identifiers of a resource are, each URL that is derived from it is a URL at the
host of its service. -/
theorem derived_urls_stay_at_service (resource : Resource) {link : String}
    (h : link ∈ resource.urls) :
    ∃ url, parse? link = some url ∧ resource.service.IsAt url := by
  obtain ⟨tail, rfl⟩ := Resource.isBelow_of_mem_urls h
  exact ⟨_, resource.service.parse_origin tail, resource.service.isAt_urlAt tail.toList⟩

theorem hostile_identifiers_stay_at_service :
    ∃ url, parse? (Service.odysee.origin ++ "/" ++ "\t@evil.example:80\\.." ++ "/" ++ "../?é#\n") =
        some url ∧ Service.odysee.IsAt url := by
  refine derived_urls_stay_at_service
    (.odyseeVideo "../?é#\n" (some "\t@evil.example:80\\..")) ?_
  simp [Resource.urls, Resource.canonicalUrl?]

end Permalink
