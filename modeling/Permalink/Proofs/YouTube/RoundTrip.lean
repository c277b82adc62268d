import Permalink.Proofs.Origin
import Permalink.Proofs.Recognizer.Identifier

set_option autoImplicit false

/-!
An identifier is written into the derived URLs as it is, as the value of a parameter or as a
segment. One that was read from a parameter is decoded, so that it may come back from neither.
-/

namespace Permalink.YouTube
open Text Url Service

theorem hosts_urlAt (tail : List Char) : Service.youtube.Hosts (Service.youtube.urlAt tail) :=
  ⟨"www.youtube.com", by decide, rfl⟩

theorem classify_origin (tail : String) : classify? (Service.youtube.origin ++ "/" ++ tail) =
    recognize? (Service.youtube.urlAt tail.toList) := by
  rw [classify_eq, parse_origin]
  rfl

theorem classify_origin_video_iff {tail id : String} :
    classify? (Service.youtube.origin ++ "/" ++ tail) = some (.youtubeVideo id) ↔
      videoId? (Service.youtube.urlAt tail.toList) = some id := by
  rw [classify_origin, recognize_eq_video_iff]
  exact and_iff_right (hosts_urlAt tail.toList)

theorem classify_origin_channel_iff {tail id : String} :
    classify? (Service.youtube.origin ++ "/" ++ tail) = some (.youtubeChannel id) ↔
      videoId? (Service.youtube.urlAt tail.toList) = none ∧
        channelId? (Service.youtube.urlAt tail.toList) = some id := by
  rw [classify_origin, recognize_eq_channel_iff]
  exact and_iff_right (hosts_urlAt tail.toList)

theorem videoId_urlAt (tail : List Char) : videoId? (Service.youtube.urlAt tail) =
    ((Service.youtube.urlAt tail).param? "v").or (pageVideoId? (Service.youtube.urlAt tail)) := by
  have hhost : (Service.youtube.urlAt tail).host? ≠ some "youtu.be" := by
    rw [host_urlAt]
    decide
  rw [videoId_eq, if_neg hhost]

theorem ne_empty_of_mem_or_param {url : Url} {key id : String}
    (h : id ∈ url.segments ∨ url.param? key = some id) : id ≠ "" := by
  rcases h with h | h
  · exact ne_empty_of_mem_segments h
  · exact ne_empty_of_param h

theorem isForm_watch : IsForm "watch".toList "v".toList := by decide

theorem isForm_feed : IsForm "feeds/videos.xml".toList "channel_id".toList := by decide

theorem path_feed : Path.ofSpecialText ('/' :: "feeds/videos.xml".toList) =
    .rooted ["feeds".toList, "videos.xml".toList] := by
  decide

/-- At the address of the feed only the parameters name a resource. -/
theorem ids_of_feed {url : Url} (hhost : url.host? = some "www.youtube.com")
    (hpath : url.path = .rooted ["feeds".toList, "videos.xml".toList]) :
    pageVideoId? url = none ∧ channelId? url = url.param? "channel_id" := by
  have hsegments : url.segments = ["feeds", "videos.xml"] := by
    rw [segments, hpath]
    decide
  have htext : url.pathText = feedPath := by
    rw [pathText, hpath]
    decide
  constructor
  · simp [pageVideoId?, hsegments, videoPages]
  · simp [channelId?, feedChannelId?, hsegments, htext, hhost]

theorem classify_watch_iff {id : String} (hid : id ≠ "") :
    classify? (Service.youtube.origin ++ "/watch?v=" ++ id) = some (.youtubeVideo id) ↔
      Form.IsLiteral id.toList := by
  have hpath : "/watch?v=" = "/" ++ "watch?v=" := rfl
  have htail : ("watch?v=" ++ id).toList =
      "watch".toList ++ '?' :: ("v".toList ++ ['=']) ++ id.toList := String.toList_append
  have hpage : pageVideoId? (Service.youtube.urlAt ("watch?v=" ++ id).toList) = none := by
    rw [htail, pageVideoId?, segments, path_urlAt_form .youtube isForm_watch]
    decide
  rw [origin_append hpath, classify_origin_video_iff, videoId_urlAt, hpage, Option.or_none, htail]
  exact param_urlAt_form_iff .youtube isForm_watch hid

theorem classify_feed_iff {id : String} (hid : id ≠ "") :
    classify? (Service.youtube.origin ++ "/feeds/videos.xml?channel_id=" ++ id) =
      some (.youtubeChannel id) ↔ Form.IsLiteral id.toList := by
  have hpath : "/feeds/videos.xml?channel_id=" = "/" ++ "feeds/videos.xml?channel_id=" := rfl
  have htail : ("feeds/videos.xml?channel_id=" ++ id).toList =
      "feeds/videos.xml".toList ++ '?' :: ("channel_id".toList ++ ['=']) ++ id.toList :=
    String.toList_append
  rw [origin_append hpath, classify_origin_channel_iff, htail, videoId_urlAt,
    ← param_urlAt_form_iff .youtube isForm_feed hid]
  have hrooted := (path_urlAt_form .youtube isForm_feed id.toList).trans path_feed
  obtain ⟨hpage, hchannel⟩ := ids_of_feed (host_urlAt _ _) hrooted
  rw [hpage, hchannel, Option.or_none]
  -- A literal identifier leaves no parameter that would make the feed a video.
  refine and_iff_right_of_imp fun h => ?_
  exact param_urlAt_form_of_ne .youtube isForm_feed
    ((param_urlAt_form_iff .youtube isForm_feed hid).mp h) (by decide)

theorem isLiteral_embed : Path.IsLiteral "embed".toList := by decide

theorem isLiteral_channel : Path.IsLiteral "channel".toList := by decide

/-- A text that a URL gives back from below its page is a segment, since a parameter is shorter. -/
theorem isLiteral_of_mem_or_param {front : List Char} (hfront : IsFront front)
    (hsharp : '#' ∉ front) (hmark : '?' ∉ front) {key id : String}
    (h : id ∈ (Service.youtube.urlAt (front ++ id.toList)).segments ∨
      (Service.youtube.urlAt (front ++ id.toList)).param? key = some id) :
    Path.IsLiteral id.toList := by
  rcases h with h | h
  · exact isLiteral_of_mem_segments h
  · exact absurd h (param_urlAt_ne .youtube hfront hsharp hmark key id)

theorem segments_urlAt_literal {page : List Char} {id : String} (hpage : Path.IsLiteral page)
    (hne : page ≠ []) (hid : id ≠ "") (h : Path.IsLiteral id.toList) :
    (Service.youtube.urlAt (page ++ ['/'] ++ id.toList)).segments = [String.ofList page, id] := by
  have hpath : (Service.youtube.urlAt (page ++ ['/'] ++ id.toList)).path =
      .rooted ([String.ofList page, id].map String.toList) := by
    rw [(urlAt_literal .youtube hpage h).1]
    simp
  rw [segments_of_path hpath]
  simp [hne, hid]

theorem classify_embed_iff {id : String} (hid : id ≠ "") :
    classify? (Service.youtube.origin ++ "/embed/" ++ id) = some (.youtubeVideo id) ↔
      Path.IsLiteral id.toList := by
  have hpath : "/embed/" = "/" ++ "embed/" := rfl
  have htail : ("embed/" ++ id).toList = "embed".toList ++ ['/'] ++ id.toList :=
    String.toList_append
  rw [origin_append hpath, classify_origin_video_iff, htail]
  constructor
  · intro h
    exact isLiteral_of_mem_or_param isLiteral_embed.isFront (by decide) (by decide)
      (mem_or_param_of_videoId h)
  · intro h
    have hsegments := segments_urlAt_literal isLiteral_embed (by decide) hid h
    rw [videoId_urlAt, (urlAt_literal .youtube isLiteral_embed h).2, pageVideoId?, hsegments]
    rfl

theorem classify_channel_iff {id : String} (hid : id ≠ "") :
    classify? (Service.youtube.origin ++ "/channel/" ++ id) = some (.youtubeChannel id) ↔
      Path.IsLiteral id.toList := by
  have hpath : "/channel/" = "/" ++ "channel/" := rfl
  have htail : ("channel/" ++ id).toList = "channel".toList ++ ['/'] ++ id.toList :=
    String.toList_append
  rw [origin_append hpath, classify_origin_channel_iff, htail]
  constructor
  · rintro ⟨_, h⟩
    exact isLiteral_of_mem_or_param isLiteral_channel.isFront (by decide) (by decide)
      (mem_or_param_of_channelId h)
  · intro h
    have hsegments := segments_urlAt_literal isLiteral_channel (by decide) hid h
    rw [videoId_urlAt, (urlAt_literal .youtube isLiteral_channel h).2, pageVideoId?,
      channelId?, hsegments]
    exact ⟨rfl, rfl⟩

/-- No other resource has the page as its channel, so the page is its own channel only if it leads
back. -/
theorem channelUrlOf_channel_iff {id : String} (hid : id ≠ "") :
    channelUrlOf? (Service.youtube.origin ++ "/channel/" ++ id) =
      some (Service.youtube.origin ++ "/channel/" ++ id) ↔ Path.IsLiteral id.toList := by
  rw [← classify_channel_iff hid, channelUrlOf?, Option.bind_eq_some_iff]
  constructor
  · rintro ⟨resource, hresource, hurl⟩
    rw [hresource]
    have hpath : "/channel/" = "/" ++ "channel/" := rfl
    have hservice : resource.service = .youtube := by
      rw [origin_append hpath, classify_origin] at hresource
      exact (hosts_of_recognize hresource).eq (hosts_urlAt _)
    cases resource with
    | youtubeVideo other => cases hurl
    | youtubeChannel other =>
      have heq : other = id := (String.append_right_inj _).mp (Option.some.inj hurl)
      rw [heq]
    | odyseeVideo | odyseeChannel | subreddit => cases hservice
  · intro h
    exact ⟨_, h, rfl⟩

/-- The canonical URL of a video leads back to it exactly if a query gives the identifier back, the
player exactly if a path does. -/
theorem video_urls_lead_back_iff {link id : String}
    (h : classify? link = some (.youtubeVideo id)) :
    ∃ canonical embed, (Resource.youtubeVideo id).canonicalUrl? = some canonical ∧
      (Resource.youtubeVideo id).embedUrl? = some embed ∧
      (classify? canonical = some (.youtubeVideo id) ↔ Form.IsLiteral id.toList) ∧
      (classify? embed = some (.youtubeVideo id) ↔ Path.IsLiteral id.toList) := by
  rw [classify_eq] at h
  obtain ⟨url, _, h⟩ := Option.bind_eq_some_iff.mp h
  obtain ⟨_, hvideo⟩ := recognize_eq_video_iff.mp h
  have hid := ne_empty_of_mem_or_param (mem_or_param_of_videoId hvideo)
  exact ⟨_, _, rfl, rfl, classify_watch_iff hid, classify_embed_iff hid⟩

theorem short_link_urls_lead_back :
    ∃ canonical embed, (Resource.youtubeVideo "abc_12-3").canonicalUrl? = some canonical ∧
      (Resource.youtubeVideo "abc_12-3").embedUrl? = some embed ∧
      classify? canonical = some (.youtubeVideo "abc_12-3") ∧
      classify? embed = some (.youtubeVideo "abc_12-3") := by
  have hlink : classify? "https://youtu.be/abc_12-3?t=5" = some (.youtubeVideo "abc_12-3") := by
    decide
  obtain ⟨canonical, embed, hc, he, hwatch, hplayer⟩ := video_urls_lead_back_iff hlink
  exact ⟨canonical, embed, hc, he, hwatch.mpr (by decide), hplayer.mpr (by decide)⟩

theorem escaped_ampersand_is_lost :
    ∃ canonical, classify? "https://www.youtube.com/watch?v=a%26b" = some (.youtubeVideo "a&b") ∧
      (Resource.youtubeVideo "a&b").canonicalUrl? = some canonical ∧
      classify? canonical = some (.youtubeVideo "a") :=
  ⟨_, by decide, rfl, by decide⟩

/-- The page of a channel leads back to it exactly if a path gives the identifier back, the feed
exactly if a query does. -/
theorem channel_urls_lead_back_iff {link id : String}
    (h : classify? link = some (.youtubeChannel id)) :
    ∃ canonical feed, (Resource.youtubeChannel id).canonicalUrl? = some canonical ∧
      (Resource.youtubeChannel id).channelUrl? = some canonical ∧
      (Resource.youtubeChannel id).feedUrls = [feed] ∧
      (classify? canonical = some (.youtubeChannel id) ↔ Path.IsLiteral id.toList) ∧
      (classify? feed = some (.youtubeChannel id) ↔ Form.IsLiteral id.toList) ∧
      (channelUrlOf? canonical = some canonical ↔ Path.IsLiteral id.toList) := by
  rw [classify_eq] at h
  obtain ⟨url, _, h⟩ := Option.bind_eq_some_iff.mp h
  obtain ⟨_, _, hchannel⟩ := recognize_eq_channel_iff.mp h
  have hid := ne_empty_of_mem_or_param (mem_or_param_of_channelId hchannel)
  exact ⟨_, _, rfl, rfl, rfl, classify_channel_iff hid, classify_feed_iff hid,
    channelUrlOf_channel_iff hid⟩

theorem channel_page_urls_lead_back :
    ∃ canonical feed, (Resource.youtubeChannel "UC_x-5").canonicalUrl? = some canonical ∧
      (Resource.youtubeChannel "UC_x-5").feedUrls = [feed] ∧
      classify? canonical = some (.youtubeChannel "UC_x-5") ∧
      classify? feed = some (.youtubeChannel "UC_x-5") ∧
      channelUrlOf? canonical = some canonical := by
  have hlink : classify? "https://m.youtube.com/channel/UC_x-5/videos" =
      some (.youtubeChannel "UC_x-5") := by
    decide
  obtain ⟨canonical, feed, hc, _, hf, hpage, hfeed, hself⟩ := channel_urls_lead_back_iff hlink
  have hliteral : Path.IsLiteral "UC_x-5".toList := by decide
  exact ⟨canonical, feed, hc, hf, hpage.mpr hliteral, hfeed.mpr (by decide),
    hself.mpr hliteral⟩

theorem ampersand_makes_feed_a_video :
    ∃ feed, classify? "https://www.youtube.com/channel/a&v=b" = some (.youtubeChannel "a&v=b") ∧
      (Resource.youtubeChannel "a&v=b").feedUrls = [feed] ∧
      classify? feed = some (.youtubeVideo "b") :=
  ⟨_, by decide, rfl, by decide⟩

variable {query : String}

theorem toList_feed (query : String) : ("feeds/videos.xml?" ++ query).toList =
    "feeds/videos.xml".toList ++ partText '?' (some query.toList) := String.toList_append

theorem classify_feed_query (hquery : ∀ c ∈ query.toList, isVisible c = true ∧ c ≠ '#') :
    classify? ("https://www.youtube.com/feeds/videos.xml?" ++ query) =
      ((Form.value? "v".toList query.toList).map fun id => .youtubeVideo (String.ofList id)).or
        ((Form.value? "channel_id".toList query.toList).map fun id =>
          .youtubeChannel (String.ofList id)) := by
  have hlink : "https://www.youtube.com/feeds/videos.xml?" ++ query =
      Service.youtube.origin ++ "/" ++ ("feeds/videos.xml?" ++ query) := by
    rw [← String.append_assoc]
    rfl
  have hmark : '?' ∉ "feeds/videos.xml".toList := by decide
  have hvisible : ∀ c ∈ "feeds/videos.xml".toList ++ partText '?' (some query.toList),
      isVisible c = true ∧ c ≠ '#' := by
    have hpage : "feeds/videos.xml".toList.all fun c => isVisible c && c != '#' := by decide
    intro c hc
    rcases List.mem_append.mp hc with hc | hc
    · simpa using List.all_eq_true.mp hpage c hc
    · rcases mem_partText hc with rfl | ⟨cs, hcs, hc⟩
      · decide
      · exact hquery c (Option.some.inj hcs ▸ hc)
  have hpath : (Service.youtube.urlAt ("feeds/videos.xml".toList ++
      partText '?' (some query.toList))).path = _ :=
    (path_atSite_page hvisible hmark).trans path_feed
  obtain ⟨hpage, hchannel⟩ := ids_of_feed (host_urlAt .youtube _) hpath
  rw [hlink, classify_origin, recognize_of_hosts (hosts_urlAt _), toList_feed, videoId_urlAt, hpage,
    hchannel, Option.or_none, urlAt_eq, param_atSite_page hvisible hmark,
    param_atSite_page hvisible hmark, Option.map_map, Option.map_map]
  rfl

/-- A feed names its channel exactly if none of its parameters names a video; otherwise it is the
first of the videos. -/
theorem feed_names_channel_iff {channel : String}
    (hquery : ∀ c ∈ query.toList, isVisible c = true ∧ c ≠ '#')
    (hchannel : Form.value? "channel_id".toList query.toList = some channel.toList) :
    (classify? ("https://www.youtube.com/feeds/videos.xml?" ++ query) =
        some (.youtubeChannel channel) ↔
      ∀ value, ("v".toList, value) ∈ Form.pairs query.toList → value = []) ∧
    ∀ video, Form.value? "v".toList query.toList = some video →
      classify? ("https://www.youtube.com/feeds/videos.xml?" ++ query) =
        some (.youtubeVideo (String.ofList video)) := by
  rw [classify_feed_query hquery, hchannel, ← Form.value_eq_none_iff]
  cases Form.value? "v".toList query.toList with
  | none => simp
  | some video => simp

theorem feed_with_other_parameters_names_channel :
    classify? ("https://www.youtube.com/feeds/videos.xml?" ++
        "v=&a%26v=b&channel_id=&channel_id=U%43_x-5&channel_id=y") =
      some (.youtubeChannel "UC_x-5") := by
  have hquery : "v=&a%26v=b&channel_id=&channel_id=U%43_x-5&channel_id=y".toList.all
      fun c => isVisible c && c != '#' := by decide
  refine (feed_names_channel_iff ?_ (by decide +kernel)).1.mpr ?_
  · simpa using hquery
  · exact Form.value_eq_none_iff.mp (by decide +kernel)

theorem parameter_makes_feed_a_video :
    classify? "https://www.youtube.com/feeds/videos.xml?channel_id=UC1&v=b" =
      some (.youtubeVideo "b") := by
  decide +kernel

end Permalink.YouTube
