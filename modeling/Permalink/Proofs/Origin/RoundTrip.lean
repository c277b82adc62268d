import Permalink.Proofs.Origin
import Permalink.Proofs.Recognizer.Identifier
import Permalink.Proofs.Url.Normal

set_option autoImplicit false

namespace Permalink
open Text Url

/-- A segment that a path has as it is written, and that is not dropped. -/
structure IsSegment (segment : String) : Prop where
  literal : Path.IsLiteral segment.toList
  nonempty : segment ≠ ""

instance (segment : String) : Decidable (IsSegment segment) :=
  decidable_of_iff (Path.IsLiteral segment.toList ∧ segment ≠ "")
    ⟨fun h => ⟨h.1, h.2⟩, fun h => ⟨h.literal, h.nonempty⟩⟩

theorem Url.IsNormal.isSegment {url : Url} (h : url.IsNormal) {segment : String}
    (hs : segment ∈ url.segments) : IsSegment segment := by
  refine ⟨?_, ne_empty_of_mem_segments hs⟩
  obtain ⟨first, others, hpath, hliteral⟩ := h.path
  rw [segments, hpath] at hs
  obtain ⟨s, hmem, rfl⟩ := List.mem_map.mp hs
  rw [String.toList_ofList]
  exact hliteral s (List.mem_of_mem_filter hmem)

namespace Service

def page (service : Service) (segments : List String) : Url where
  scheme := .https
  authority := some service.authority
  path := .rooted (segments.map String.toList)
  query := none
  fragment := none

variable (service : Service)

theorem isNormal_page {segments : List String} (hne : segments ≠ [])
    (h : ∀ s ∈ segments, Path.IsLiteral s.toList) :
    (service.page segments).IsNormal := by
  obtain ⟨first, others, rfl⟩ := List.exists_cons_of_ne_nil hne
  refine ⟨.inr rfl, ⟨_, rfl, service.isSite_host⟩, ⟨_, _, rfl, fun s hs => ?_⟩, by simp [page],
    by simp [page]⟩
  obtain ⟨segment, hsegment, rfl⟩ := List.mem_map.mp (List.map_cons ▸ hs)
  exact h segment hsegment

theorem toList_text_page (segments : List String) : (service.page segments).text.toList =
    service.origin.toList ++ segments.flatMap fun s => '/' :: s.toList := by
  have horigin : service.origin.toList =
      Scheme.https.name ++ ':' :: '/' :: '/' :: service.authority.text := by
    cases service <;> decide
  rw [horigin, text, String.toList_ofList, chars_eq rfl]
  simp [page, Path.text, partText, List.flatMap_map]

theorem segments_page (segments : List String) :
    (service.page segments).segments = segments.filter (· ≠ "") :=
  segments_of_path rfl

theorem classify_page {link : String} (segments : List String) (hne : segments ≠ [])
    (h : ∀ s ∈ segments, Path.IsLiteral s.toList)
    (hlink : link.toList = service.origin.toList ++ segments.flatMap fun s => '/' :: s.toList) :
    classify? link = recognize? (service.page segments) := by
  have htext : link = (service.page segments).text := by
    rw [← String.toList_inj, hlink, toList_text_page]
  rw [classify_eq, htext, (service.isNormal_page hne h).parse_text]
  rfl

theorem hosts_page (segments : List String) : service.Hosts (service.page segments) := by
  refine ⟨String.ofList service.host, ?_, rfl⟩
  cases service <;> decide

end Service

/-- The channel to which a resource belongs, as a resource of its own. -/
def Resource.channel? : Resource → Option Resource
  | youtubeVideo _ => none
  | odyseeVideo _ channel => channel.map odyseeChannel
  | youtubeChannel id => some (youtubeChannel id)
  | odyseeChannel id => some (odyseeChannel id)
  | subreddit name => some (subreddit name)

namespace Odysee

theorem isChannel_eq_false_of_isClaim {segment : String} (h : isClaim segment = true) :
    isChannel segment = false := by
  rw [isClaim, Bool.and_eq_true] at h
  unfold isChannel
  split
  · rename_i heq
    simp [heq] at h
  · rfl

section Pages
variable (front : List String) {segment : String}

theorem segments_page (hfront : ∀ s ∈ front, IsSegment s) (hsegment : IsSegment segment) :
    (Service.odysee.page (front ++ [segment])).segments = front ++ [segment] := by
  rw [Service.segments_page]
  refine List.filter_eq_self.mpr fun s hs => ?_
  rcases List.mem_append.mp hs with hs | hs
  · simpa using (hfront s hs).nonempty
  · simpa [List.mem_singleton.mp hs] using hsegment.nonempty

theorem recognize_channel_page (hfront : ∀ s ∈ front, IsSegment s ∧ isChannel s = false)
    (hsegment : IsSegment segment) (hchannel : isChannel segment = true) :
    recognize? (Service.odysee.page (front ++ [segment])) = some (.odyseeChannel segment) := by
  have hsegments := segments_page front (fun s hs => (hfront s hs).1) hsegment
  have hclaim : isClaim segment = false := by
    rw [Bool.eq_false_iff]
    intro hclaim
    rw [isChannel_eq_false_of_isClaim hclaim] at hchannel
    cases hchannel
  have hvideo : videoId? (Service.odysee.page (front ++ [segment])) = none := by
    rw [videoId?, hsegments, List.getLast?_concat, Option.filter_some, if_neg (by simp [hclaim])]
  have hid : channelId? (Service.odysee.page (front ++ [segment])) = some segment := by
    have hnone : front.find? isChannel = none :=
      List.find?_eq_none.mpr fun s hs => by simp [(hfront s hs).2]
    rw [channelId?, hsegments, List.find?_append, hnone]
    simp [hchannel]
  rw [recognize_of_hosts (Service.odysee.hosts_page _), hvideo, hid]
  rfl

theorem recognize_video_page (hfront : ∀ s ∈ front, IsSegment s) (hsegment : IsSegment segment)
    (hclaim : isClaim segment = true) :
    recognize? (Service.odysee.page (front ++ [segment])) =
      some (.odyseeVideo segment (front.find? isNamedChannel)) := by
  have hsegments := segments_page front hfront hsegment
  have hvideo : videoId? (Service.odysee.page (front ++ [segment])) = some segment := by
    rw [videoId?, hsegments, List.getLast?_concat, Option.filter_some, if_pos hclaim]
  have hchannel : videoChannelId? (Service.odysee.page (front ++ [segment])) =
      front.find? isNamedChannel := by
    have hlast : isNamedChannel segment = false := by
      simp [isNamedChannel, isChannel_eq_false_of_isClaim hclaim]
    change (Url.segments _).find? isNamedChannel = _
    rw [hsegments, List.find?_append]
    simp [hlast]
  rw [recognize_of_hosts (Service.odysee.hosts_page _), hvideo, hchannel]
  rfl

end Pages

section Derived
variable {channel id : String}

theorem classify_channel (hchannel : IsSegment channel) (h : isChannel channel = true) :
    classify? (Service.odysee.origin ++ "/" ++ channel) = some (.odyseeChannel channel) := by
  rw [Service.odysee.classify_page [channel] (by simp)
    (by simpa using hchannel.literal) (by simp [String.toList_append])]
  exact recognize_channel_page [] (by simp) hchannel h

theorem classify_feed (hchannel : IsSegment channel) (h : isChannel channel = true) :
    classify? (Resource.odyseeFeedUrl channel) = some (.odyseeChannel channel) := by
  have hfront : ∀ s ∈ ["$", "rss"], IsSegment s ∧ isChannel s = false := by decide
  rw [Service.odysee.classify_page (["$", "rss"] ++ [channel]) (by simp)
    (by simpa using ⟨(hfront "$" (by simp)).1.literal, (hfront "rss" (by simp)).1.literal,
      hchannel.literal⟩) (by simp [Resource.odyseeFeedUrl, String.toList_append])]
  exact recognize_channel_page ["$", "rss"] hfront hchannel h

theorem classify_video (hchannel : IsSegment channel) (h : isNamedChannel channel = true)
    (hid : IsSegment id) (hclaim : isClaim id = true) :
    classify? (Service.odysee.origin ++ "/" ++ channel ++ "/" ++ id) =
      some (.odyseeVideo id (some channel)) := by
  rw [Service.odysee.classify_page ([channel] ++ [id]) (by simp)
    (by simpa using ⟨hchannel.literal, hid.literal⟩) (by simp [String.toList_append]),
    recognize_video_page [channel] (by simpa using hchannel) hid hclaim]
  simp [h]

theorem classify_embed (hid : IsSegment id) (hclaim : isClaim id = true) :
    classify? (Service.odysee.origin ++ "/$/embed/" ++ id) = some (.odyseeVideo id none) := by
  have hfront : ∀ s ∈ ["$", "embed"], IsSegment s := by decide
  rw [Service.odysee.classify_page (["$", "embed"] ++ [id]) (by simp)
    (by simpa using ⟨(hfront "$" (by simp)).literal, (hfront "embed" (by simp)).literal,
      hid.literal⟩) (by simp [String.toList_append]),
    recognize_video_page ["$", "embed"] hfront hid hclaim]
  have hnone : ["$", "embed"].find? isNamedChannel = none := by decide
  rw [hnone]

end Derived

section Found
variable {url : Url} {id : String}

theorem isSegment_of_videoId (h : url.IsNormal) (hid : videoId? url = some id) :
    IsSegment id ∧ isClaim id = true :=
  (mem_of_videoId hid).imp_left h.isSegment

theorem isSegment_of_videoChannelId {channel : String} (h : url.IsNormal)
    (hchannel : videoChannelId? url = some channel) :
    IsSegment channel ∧ isNamedChannel channel = true :=
  (mem_of_videoChannelId hchannel).imp_left h.isSegment

theorem isSegment_of_channelId (h : url.IsNormal) (hid : channelId? url = some id) :
    IsSegment id ∧ isChannel id = true :=
  (mem_of_channelId hid).imp_left h.isSegment

end Found
end Odysee

namespace Reddit
variable {name : String}

theorem recognize_subreddit_page (hname : IsSegment name) (last : String) :
    recognize? (Service.reddit.page ["r", name, last]) = some (.subreddit name) := by
  have hsegments : ∃ rest, (Service.reddit.page ["r", name, last]).segments = "r" :: name :: rest := by
    rw [Service.segments_page, List.filter_cons_of_pos (by decide),
      List.filter_cons_of_pos (by simpa using hname.nonempty)]
    exact ⟨_, rfl⟩
  obtain ⟨rest, hsegments⟩ := hsegments
  rw [recognize_of_hosts (Service.reddit.hosts_page _), subreddit?, hsegments]
  rfl

theorem classify_subreddit (hname : IsSegment name) (last : String)
    (hlast : Path.IsLiteral last.toList) :
    classify? (Service.reddit.origin ++ "/r/" ++ name ++ "/" ++ last) = some (.subreddit name) := by
  have hpage : Path.IsLiteral "r".toList := by decide
  rw [Service.reddit.classify_page ["r", name, last] (by simp)
    (by simpa using ⟨hpage, hname.literal, hlast⟩) (by simp [String.toList_append])]
  exact recognize_subreddit_page hname last

end Reddit

/-- What is derived from a resource names the resource again, or its channel, or the player. -/
structure LeadsBack (resource : Resource) : Prop where
  canonical : ∀ link, resource.canonicalUrl? = some link → classify? link = some resource
  feeds : ∀ link ∈ resource.feedUrls, ∃ channel, resource.channel? = some channel ∧
    classify? link = some channel
  embed : ∀ link, resource.embedUrl? = some link → ∃ id channel,
    resource = .odyseeVideo id channel ∧ classify? link = some (.odyseeVideo id none)
  channel : ∀ link, resource.channelUrl? = some link → ∃ channel,
    resource.channel? = some channel ∧ classify? link = some channel ∧
      channelUrlOf? link = some link ∧ channel.feedUrls = resource.feedUrls

namespace LeadsBack
variable {id name : String}

theorem channelUrlOf_eq {link : String} {resource : Resource} (h : classify? link = some resource)
    (hurl : resource.channelUrl? = some link) : channelUrlOf? link = some link := by
  rw [channelUrlOf?, h, Option.bind_some, hurl]

theorem odyseeChannel (hid : IsSegment id) (h : Odysee.isChannel id = true) :
    LeadsBack (.odyseeChannel id) where
  canonical := by
    rintro link ⟨⟩
    exact Odysee.classify_channel hid h
  feeds := by
    intro link hlink
    rw [List.mem_singleton.mp hlink]
    exact ⟨_, rfl, Odysee.classify_feed hid h⟩
  embed := by
    rintro link ⟨⟩
  channel := by
    rintro link ⟨⟩
    have hpage := Odysee.classify_channel hid h
    exact ⟨_, rfl, hpage, channelUrlOf_eq hpage rfl, rfl⟩

theorem odyseeVideo {channel : Option String} (hid : IsSegment id)
    (hclaim : Odysee.isClaim id = true)
    (hchannel : ∀ c ∈ channel, IsSegment c ∧ Odysee.isNamedChannel c = true) :
    LeadsBack (.odyseeVideo id channel) := by
  have hembed : ∀ link, (Resource.odyseeVideo id channel).embedUrl? = some link →
      ∃ video owner, Resource.odyseeVideo id channel = .odyseeVideo video owner ∧
        classify? link = some (.odyseeVideo video none) := by
    rintro link ⟨⟩
    exact ⟨id, channel, rfl, Odysee.classify_embed hid hclaim⟩
  cases channel with
  | none => exact ⟨by rintro link ⟨⟩, by rintro link ⟨⟩, hembed, by rintro link ⟨⟩⟩
  | some owner =>
    obtain ⟨howner, hnamed⟩ := hchannel owner rfl
    have hisChannel : Odysee.isChannel owner = true := (Bool.and_eq_true_iff.mp hnamed).1
    refine ⟨?_, fun link hlink => ?_, hembed, ?_⟩
    · rintro link ⟨⟩
      exact Odysee.classify_video howner hnamed hid hclaim
    · rw [List.mem_singleton.mp hlink]
      exact ⟨_, rfl, Odysee.classify_feed howner hisChannel⟩
    · rintro link ⟨⟩
      have hpage := Odysee.classify_channel howner hisChannel
      exact ⟨_, rfl, hpage, channelUrlOf_eq hpage rfl, rfl⟩

theorem subreddit (hname : IsSegment name) : LeadsBack (.subreddit name) := by
  have hpage : classify? (Service.reddit.origin ++ "/r/" ++ name ++ "/") = some (.subreddit name) := by
    have hlast := Reddit.classify_subreddit hname "" Path.isLiteral_nil
    rwa [String.append_empty] at hlast
  refine ⟨?_, fun link hlink => ?_, ?_, ?_⟩
  · rintro link ⟨⟩
    exact hpage
  · have hfeed := Reddit.classify_subreddit hname ".rss" (by decide)
    have hdot : "/.rss" = "/" ++ ".rss" := rfl
    rw [List.mem_singleton.mp hlink, hdot, ← String.append_assoc]
    exact ⟨_, rfl, hfeed⟩
  · rintro link ⟨⟩
  · rintro link ⟨⟩
    exact ⟨_, rfl, hpage, channelUrlOf_eq hpage rfl, rfl⟩

end LeadsBack

/-- Whatever an `http` or `https` link names on Odysee or Reddit, the URLs derived from it lead back:
the canonical one to the resource, the feeds and the channel page to its channel, the player to the
video. -/
theorem odysee_and_reddit_urls_lead_back {link : String} {url : Url} {resource : Resource}
    (hurl : Url.parse? link = some url) (hweb : url.scheme = .http ∨ url.scheme = .https)
    (h : classify? link = some resource)
    (hservice : resource.service = .odysee ∨ resource.service = .reddit) :
    LeadsBack resource := by
  have hnormal : url.IsNormal := isNormal_of_parse hurl hweb
  rw [classify_eq, hurl, Option.bind_some] at h
  have hhosts := hosts_of_recognize h
  rcases hservice with hs | hs
  · rw [hs] at hhosts
    rw [Odysee.recognize_of_hosts hhosts] at h
    rcases Option.or_eq_some_iff.mp h with h | ⟨_, h⟩
    · obtain ⟨id, hid, rfl⟩ := Option.map_eq_some_iff.mp h
      obtain ⟨hsegment, hclaim⟩ := Odysee.isSegment_of_videoId hnormal hid
      exact .odyseeVideo hsegment hclaim fun _ hc => Odysee.isSegment_of_videoChannelId hnormal hc
    · obtain ⟨id, hid, rfl⟩ := Option.map_eq_some_iff.mp h
      obtain ⟨hsegment, hchannel⟩ := Odysee.isSegment_of_channelId hnormal hid
      exact .odyseeChannel hsegment hchannel
  · rw [hs] at hhosts
    rw [Reddit.recognize_of_hosts hhosts] at h
    obtain ⟨name, hname, rfl⟩ := Option.map_eq_some_iff.mp h
    exact .subreddit (hnormal.isSegment (Reddit.mem_of_subreddit hname))

theorem encoded_claim_urls_lead_back :
    ∃ url, Url.parse? "http://odysee.com/x/../@é:1//v:2/?t=3" = some url ∧ url.scheme = .http ∧
      classify? "http://odysee.com/x/../@é:1//v:2/?t=3" =
        some (.odyseeVideo "v:2" (some "@%C3%A9:1")) ∧
      LeadsBack (.odyseeVideo "v:2" (some "@%C3%A9:1")) := by
  have hscheme : (Url.parse? "http://odysee.com/x/../@é:1//v:2/?t=3").map (·.scheme) =
      some .http := by decide +kernel
  have h : classify? "http://odysee.com/x/../@é:1//v:2/?t=3" =
      some (.odyseeVideo "v:2" (some "@%C3%A9:1")) := by decide +kernel
  obtain ⟨url, hurl, hhttp⟩ := Option.map_eq_some_iff.mp hscheme
  exact ⟨url, hurl, hhttp, h, odysee_and_reddit_urls_lead_back hurl (.inl hhttp) h (.inl rfl)⟩

end Permalink
