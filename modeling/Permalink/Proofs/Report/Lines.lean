import Permalink.Proofs.Origin
import Permalink.Proofs.Recognizer.Identifier
import Permalink.Proofs.Tracking
import Permalink.Proofs.Wrapper.Settle
import Permalink.Report

set_option autoImplicit false

namespace Permalink
open Text Url

section Prepared
variable {input : String}

theorem not_mem_stripTracking {link : String} (h : '\n' ∉ link.toList) :
    '\n' ∉ (stripTracking link).toList := by
  cases hstrip : (parse? link).bind Tracking.stripUrl? with
  | none => rwa [Tracking.stripTracking_of_none hstrip]
  | some stripped =>
    obtain ⟨url, hurl, hsome⟩ := Option.bind_eq_some_iff.mp hstrip
    obtain ⟨htext, hnormal, _⟩ := Tracking.stripTracking_of_some hurl hsome
    rw [htext, Url.text, String.toList_ofList]
    intro hmem
    exact absurd (hnormal.isVisible_of_mem_chars _ hmem) (by decide)

theorem not_mem_sanitize (h : '\n' ∉ input.toList)
    (hbare : ∀ wrapper ∈ wrappers, wrapper.unwrap? (trim input) = none) :
    '\n' ∉ (sanitize input).toList := by
  rw [sanitize, sanitizeWith_of_settled ⟨trim_trim input, hbare⟩, toList_trim]
  exact fun hmem => h ((trimChars_sublist _).mem hmem)

/-- Only the destination of a wrapped link brings a line feed into the URL of a report. -/
theorem wrapped_of_mem_prepare {settings : Settings} (h : '\n' ∉ input.toList)
    (hurl : '\n' ∈ (settings.prepare input).toList) :
    settings.sanitize = true ∧
      ∃ wrapper ∈ wrappers, wrapper.unwrap? (trim input) ≠ none := by
  by_contra hnot
  have hclean : '\n' ∉ (if settings.sanitize then sanitize input else input).toList := by
    by_cases hs : settings.sanitize = true
    · rw [if_pos hs]
      refine not_mem_sanitize h fun wrapper hmem => ?_
      by_contra hne
      exact hnot ⟨hs, wrapper, hmem, hne⟩
    · rwa [if_neg hs]
  rw [Settings.prepare] at hurl
  split at hurl
  · exact not_mem_stripTracking hclean hurl
  · exact hclean hurl

end Prepared

theorem IsPathSegment.not_mem {id : String} (h : IsPathSegment id) : '\n' ∉ id.toList :=
  fun hmem => absurd (h.plain.printable _ hmem).1 (by decide)

namespace Resource
variable {resource : Resource} {link : String}

/-- Only a decoded parameter brings a line feed into an identifier. -/
theorem param_of_mem_identifier {url : Url} (h : resource.IsWellFormed url)
    {entry : String × String} (hentry : entry ∈ resource.identifiers)
    (hmem : '\n' ∈ entry.2.toList) : resource.service = .youtube ∧
      (url.param? "v" = some entry.2 ∨ url.param? "channel_id" = some entry.2) := by
  cases resource with
  | youtubeVideo id =>
    obtain rfl := List.mem_singleton.mp hentry
    rcases h with hsegment | ⟨_, _, hparam⟩
    · exact absurd hmem hsegment.not_mem
    · exact ⟨rfl, .inl hparam⟩
  | youtubeChannel id =>
    obtain rfl := List.mem_singleton.mp hentry
    rcases h with hsegment | ⟨_, _, hparam⟩
    · exact absurd hmem hsegment.not_mem
    · exact ⟨rfl, .inr hparam⟩
  | odyseeVideo id channel =>
    obtain ⟨hid, _, _, howner⟩ := h
    rcases List.mem_append.mp hentry with hchannel | hvideo
    · obtain ⟨owner, hsome, rfl⟩ := Option.map_eq_some_iff.mp (Option.mem_toList.mp hchannel)
      exact absurd hmem (howner owner hsome).1.not_mem
    · obtain rfl := List.mem_singleton.mp hvideo
      exact absurd hmem hid.not_mem
  | odyseeChannel id =>
    obtain rfl := List.mem_singleton.mp hentry
    exact absurd hmem h.1.not_mem
  | subreddit name =>
    obtain rfl := List.mem_singleton.mp hentry
    exact absurd hmem (IsPathSegment.not_mem h)

theorem not_mem_urls (h : ∀ entry ∈ resource.identifiers, '\n' ∉ entry.2.toList) :
    ∀ link ∈ resource.urls, '\n' ∉ link.toList := by
  have horigin (service : Service) : '\n' ∉ service.origin.toList := by cases service <;> decide
  cases resource with
  | youtubeVideo id =>
    have hid : '\n' ∉ id.toList := h ("videoId", id) (by simp [identifiers])
    simp [urls, canonicalUrl?, alternateUrls, feedUrls, embedUrl?, channelUrl?, horigin, hid]
  | youtubeChannel id =>
    have hid : '\n' ∉ id.toList := h ("channelId", id) (by simp [identifiers])
    simp [urls, canonicalUrl?, alternateUrls, feedUrls, embedUrl?, channelUrl?, horigin, hid]
  | odyseeVideo id channel =>
    have hid : '\n' ∉ id.toList := h ("videoId", id) (by simp [identifiers])
    cases channel with
    | none =>
      simp [urls, canonicalUrl?, alternateUrls, feedUrls, embedUrl?, channelUrl?, horigin, hid]
    | some owner =>
      have howner : '\n' ∉ owner.toList := h ("channelId", owner) (by simp [identifiers])
      simp [urls, canonicalUrl?, alternateUrls, feedUrls, odyseeFeedUrl, embedUrl?, channelUrl?,
        horigin, hid, howner]
  | odyseeChannel id =>
    have hid : '\n' ∉ id.toList := h ("channelId", id) (by simp [identifiers])
    simp [urls, canonicalUrl?, alternateUrls, feedUrls, odyseeFeedUrl, embedUrl?, channelUrl?,
      horigin, hid]
  | subreddit name =>
    have hname : '\n' ∉ name.toList := h ("subreddit", name) (by simp [identifiers])
    simp [urls, canonicalUrl?, alternateUrls, feedUrls, embedUrl?, channelUrl?, horigin, hname]

def urlItems (resource : Resource) : List (String × String) :=
  (resource.canonicalUrl?.map (("canonical", ·))).toList ++
    resource.alternateUrls.map (("alternate", ·)) ++ resource.feedUrls.map (("feed", ·)) ++
    (resource.embedUrl?.map (("embed", ·))).toList ++
    (resource.channelUrl?.map (("channel", ·))).toList

theorem mem_urls_of_mem_urlItems {item : String × String} (h : item ∈ resource.urlItems) :
    '\n' ∉ item.1.toList ∧ item.2 ∈ resource.urls := by
  simp only [urlItems, List.mem_append, Option.mem_toList, Option.map_eq_some_iff,
    List.mem_map] at h
  simp only [urls, List.mem_append, Option.mem_toList]
  rcases h with (((⟨link, hlink, rfl⟩ | ⟨link, hlink, rfl⟩) | ⟨link, hlink, rfl⟩) |
    ⟨link, hlink, rfl⟩) | ⟨link, hlink, rfl⟩ <;> exact ⟨by simp, by simp [hlink]⟩

theorem not_mem_roles (resource : Resource) :
    ∀ entry ∈ resource.identifiers, '\n' ∉ entry.1.toList := by
  cases resource with
  | odyseeVideo id channel => cases channel <;> simp [identifiers]
  | youtubeVideo | youtubeChannel | odyseeChannel | subreddit => simp [identifiers]

end Resource

namespace Report
variable {input url : String} {resource : Resource}

def headItems (input url : String) (resource : Resource) : List (String × String) :=
  (if url = input then [] else [("url", url)]) ++
    [("service", resource.service.name), ("kind", resource.kind.name)]

theorem items_ofResource (input url : String) (resource : Resource) :
    (ofResource input url (some resource)).items =
      headItems input url resource ++ resource.identifiers ++ resource.urlItems := by
  by_cases heq : url = input <;>
    simp [items, ofResource, headItems, Resource.urlItems, Resource.derivedUrls, heq]

theorem mem_headItems {item : String × String} (h : item ∈ headItems input url resource) :
    '\n' ∉ item.1.toList ∧ (item.2 = url ∨ '\n' ∉ item.2.toList) := by
  have hservice : '\n' ∉ resource.service.name.toList := by cases resource.service <;> decide
  have hkind : '\n' ∉ resource.kind.name.toList := by cases resource.kind <;> decide
  rcases List.mem_append.mp h with h | h
  · split at h
    · cases h
    · rw [List.mem_singleton.mp h]
      simp
  · rcases List.mem_cons.mp h with rfl | h
    · simp [hservice]
    · rw [List.mem_singleton.mp h]
      simp [hkind]

/-- The line of an item, from behind the line feed that begins it. -/
def row (item : String × String) : List Char := ("  " ++ item.1 ++ ": " ++ item.2).toList

theorem not_mem_row_iff {item : String × String} (h : '\n' ∉ item.1.toList) :
    '\n' ∉ row item ↔ '\n' ∉ item.2.toList := by
  simp [row, h]

/-- No item has a line feed exactly if neither the URL nor an identifier has one. -/
theorem forall_row_iff (hinput : '\n' ∉ input.toList) :
    (∀ item ∈ (ofResource input url (some resource)).items, '\n' ∉ row item) ↔
      '\n' ∉ url.toList ∧ ∀ entry ∈ resource.identifiers, '\n' ∉ entry.2.toList := by
  simp only [items_ofResource, List.forall_mem_append]
  constructor
  · rintro ⟨⟨hhead, hids⟩, -⟩
    refine ⟨?_, fun entry hentry => ?_⟩
    · by_cases heq : url = input
      · rwa [heq]
      · have hrow := hhead ("url", url) (by simp [headItems, heq])
        rwa [not_mem_row_iff (by simp)] at hrow
    · rw [← not_mem_row_iff (resource.not_mem_roles entry hentry)]
      exact hids entry hentry
  · rintro ⟨hurl, hids⟩
    refine ⟨⟨fun item hitem => ?_, fun entry hentry => ?_⟩, fun item hitem => ?_⟩
    · obtain ⟨hkey, hvalue⟩ := mem_headItems hitem
      rw [not_mem_row_iff hkey]
      exact hvalue.elim (fun heq => heq ▸ hurl) id
    · rw [not_mem_row_iff (resource.not_mem_roles entry hentry)]
      exact hids entry hentry
    · obtain ⟨hkey, hlink⟩ := Resource.mem_urls_of_mem_urlItems hitem
      rw [not_mem_row_iff hkey]
      exact Resource.not_mem_urls hids _ hlink

def lines (report : Report) : List (List Char) := report.text.toList.splitOn '\n'

/-- What a report is made of: the input and its items, or all that is said about an unhandled
link. -/
def rows (report : Report) : List (List Char) :=
  if report.handled then report.input.toList :: report.items.map row else [report.text.toList]

def IsUnbroken (report : Report) : Prop :=
  '\n' ∉ report.url.toList ∧ ∀ entry ∈ report.identifiers, '\n' ∉ entry.2.toList

instance (report : Report) : Decidable report.IsUnbroken :=
  inferInstanceAs (Decidable (_ ∧ _))

theorem rows_ne_nil (report : Report) : report.rows ≠ [] := by
  rw [rows]
  split <;> exact List.cons_ne_nil _ _

theorem length_rows (report : Report) :
    report.rows.length = if report.handled then 1 + report.items.length else 1 := by
  rw [rows]
  split
  · rw [List.length_cons, List.length_map, Nat.add_comm]
  · rfl

theorem text_eq_intercalate (report : Report) :
    report.text.toList = ['\n'].intercalate report.rows := by
  have hline (item : String × String) : (itemLine item).toList = '\n' :: row item := by
    simp [itemLine, row]
  rw [rows]
  split
  · rename_i hhandled
    rw [intercalate_cons_eq_flatMap, text, if_pos hhandled, String.toList_append,
      String.toList_join, List.flatMap_map, List.flatMap_map]
    simp only [hline]
  · rw [List.intercalate_singleton]

theorem not_mem_unhandled_iff (hinput : '\n' ∉ input.toList) :
    '\n' ∉ (ofResource input url none).text.toList ↔ '\n' ∉ url.toList := by
  have htext : (ofResource input url none).text = input ++ " -> unhandled" ++
      if url = input then "" else " (sanitized: " ++ url ++ ")" := rfl
  rw [htext]
  split
  · rename_i heq
    simp [heq, hinput]
  · simp [hinput]

theorem forall_rows_iff (hinput : '\n' ∉ input.toList) (found : Option Resource) :
    (∀ row ∈ (ofResource input url found).rows, '\n' ∉ row) ↔
      (ofResource input url found).IsUnbroken := by
  cases found with
  | none =>
    have hrows : (ofResource input url none).rows = [(ofResource input url none).text.toList] := rfl
    have hids : (ofResource input url none).identifiers = [] := rfl
    rw [hrows, List.forall_mem_singleton, not_mem_unhandled_iff hinput, IsUnbroken, hids]
    simp [ofResource]
  | some resource =>
    have hrows : (ofResource input url (some resource)).rows =
        input.toList :: (ofResource input url (some resource)).items.map row := rfl
    rw [hrows, List.forall_mem_cons, List.forall_mem_map, forall_row_iff hinput]
    exact and_iff_right hinput

theorem lines_eq_rows {report : Report} (h : ∀ row ∈ report.rows, '\n' ∉ row) :
    report.lines = report.rows := by
  rw [lines, text_eq_intercalate, List.splitOn_intercalate '\n' h report.rows_ne_nil]

theorem length_lines_iff {report : Report} :
    report.lines.length = report.rows.length ↔ ∀ row ∈ report.rows, '\n' ∉ row := by
  rw [lines, text_eq_intercalate]
  exact length_splitOn_intercalate_iff report.rows_ne_nil

/-- The report on a link without a line feed has a line for the input and one for each item, or one
line if the link is unhandled, exactly if neither its URL nor an identifier has a line feed; its
lines then are just these. A line feed comes into the URL by unwrapping, and into an identifier by
decoding a parameter. -/
theorem line_for_each_item_iff (settings : Settings) {input : String} (h : '\n' ∉ input.toList) :
    ((ofInput settings input).lines.length = (if (ofInput settings input).handled
        then 1 + (ofInput settings input).items.length else 1) ↔
      (ofInput settings input).IsUnbroken) ∧
    ((ofInput settings input).IsUnbroken →
      (ofInput settings input).lines = (ofInput settings input).rows) ∧
    ('\n' ∈ (ofInput settings input).url.toList → settings.sanitize = true ∧
      ∃ wrapper ∈ wrappers, wrapper.unwrap? (trim input) ≠ none) ∧
    ∀ entry ∈ (ofInput settings input).identifiers, '\n' ∈ entry.2.toList →
      ∃ url, parse? (ofInput settings input).url = some url ∧
        (url.param? "v" = some entry.2 ∨ url.param? "channel_id" = some entry.2) := by
  have hrows : (∀ row ∈ (ofInput settings input).rows, '\n' ∉ row) ↔
      (ofInput settings input).IsUnbroken := forall_rows_iff h (classify? (settings.prepare input))
  refine ⟨?_, fun hunbroken => lines_eq_rows (hrows.mpr hunbroken), wrapped_of_mem_prepare h,
    ?_⟩
  · rw [← length_rows, length_lines_iff]
    exact hrows
  · intro entry hentry hmem
    cases hfound : classify? (settings.prepare input) with
    | none =>
      rw [ofInput, hfound] at hentry
      cases hentry
    | some resource =>
      rw [ofInput, hfound] at hentry
      obtain ⟨url, hurl, _, hformed⟩ := classified_resource_is_well_formed hfound
      exact ⟨url, hurl, (Resource.param_of_mem_identifier hformed hentry hmem).2⟩

theorem ofInput_eq {settings : Settings} {found : Option Resource}
    (hurl : settings.prepare input = url) (hfound : classify? url = found) :
    ofInput settings input = ofResource input url found := by
  rw [ofInput, hurl, hfound]

/-- A wrapped link whose destination has an escaped line feed in its path. -/
def wrappedLink : String := "https://google.com/url?q=https://youtu.be/a%250A"

theorem wrapped_video_has_eight_lines :
    '\n' ∉ wrappedLink.toList ∧ (ofInput .initial wrappedLink).lines.length = 8 := by
  have hinput : '\n' ∉ wrappedLink.toList := by decide
  have hreport : ofInput .initial wrappedLink =
      ofResource wrappedLink "https://youtu.be/a%0A" (some (.youtubeVideo "a%0A")) :=
    ofInput_eq (by decide +kernel) (by decide +kernel)
  obtain ⟨hlength, _⟩ := line_for_each_item_iff .initial hinput
  rw [hreport] at hlength ⊢
  exact ⟨hinput, hlength.mpr (by decide +kernel)⟩

def forgingLink : String := "https://youtube.com?v=a%0A++channel:+b"

def forgedLines : List String :=
  [forgingLink, "  service: youtube", "  kind: video", "  videoId: a", "  channel: b",
    "  canonical: https://www.youtube.com/watch?v=a", "  channel: b",
    "  alternate: https://www.youtube.com/watch?v=a", "  channel: b",
    "  embed: https://www.youtube.com/embed/a", "  channel: b"]

/-- The identifier is split, and its second part reads as an item that the report does not have. -/
theorem decoded_line_feed_forges_item :
    '\n' ∉ forgingLink.toList ∧ (ofInput .initial forgingLink).handled = true ∧
      (ofInput .initial forgingLink).items.length = 6 ∧
      (ofInput .initial forgingLink).channelUrl = none ∧
      (ofInput .initial forgingLink).lines = forgedLines.map String.toList ∧
      forgedLines.length = 11 := by
  have hreport : ofInput .initial forgingLink =
      ofResource forgingLink forgingLink (some (.youtubeVideo "a\n  channel: b")) :=
    ofInput_eq (by decide +kernel) (by decide +kernel)
  have htext : (ofResource forgingLink forgingLink
      (some (.youtubeVideo "a\n  channel: b"))).text = String.intercalate "\n" forgedLines := by
    decide +kernel
  have hlines : ∀ line ∈ forgedLines.map String.toList, '\n' ∉ line := by decide +kernel
  rw [hreport]
  refine ⟨by decide, rfl, by decide +kernel, rfl, ?_, rfl⟩
  rw [lines, htext, String.toList_intercalate]
  exact List.splitOn_intercalate '\n' hlines (by decide)

end Report
end Permalink
