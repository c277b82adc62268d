import Permalink.Proofs.Recognizer.Builtin
import Permalink.Proofs.Url.Parse
import Permalink.Proofs.Url.Segment

set_option autoImplicit false

namespace Permalink
open Url

namespace YouTube
variable {url : Url} {id : String}

def pageVideoId? (url : Url) : Option String :=
  match url.segments with
  | page :: id :: _ => if videoPages.contains page then some id else none
  | _ => none

theorem videoId_eq (url : Url) : videoId? url =
    if url.host? = some "youtu.be" then url.segments.head?
    else (url.param? "v").or (pageVideoId? url) := rfl

theorem mem_of_pageVideoId (h : pageVideoId? url = some id) : id ∈ url.segments := by
  unfold pageVideoId? at h
  split at h
  · rename_i page second rest hs
    split at h
    · rw [hs, ← Option.some.inj h]
      simp
    · cases h
  · cases h

/-- A video is named by a segment, or by the parameter of a URL that is no short link. -/
theorem source_of_videoId (h : videoId? url = some id) :
    id ∈ url.segments ∨ url.host? ≠ some "youtu.be" ∧ url.param? "v" = some id := by
  rw [videoId_eq] at h
  split at h
  · exact .inl (List.mem_of_head? h)
  · rename_i hhost
    rcases Option.or_eq_some_iff.mp h with hparam | ⟨_, hpage⟩
    · exact .inr ⟨hhost, hparam⟩
    · exact .inl (mem_of_pageVideoId hpage)

theorem mem_or_param_of_videoId (h : videoId? url = some id) :
    id ∈ url.segments ∨ url.param? "v" = some id :=
  (source_of_videoId h).imp_right And.right

theorem feedChannelId_eq_some_iff : feedChannelId? url = some id ↔
    (url.host? = some "www.youtube.com" ∧ url.pathText = feedPath) ∧
      url.param? "channel_id" = some id := by
  simp [feedChannelId?]

theorem source_of_channelId (h : channelId? url = some id) : id ∈ url.segments ∨
    (url.host? = some "www.youtube.com" ∧ url.pathText = feedPath) ∧
      url.param? "channel_id" = some id := by
  unfold channelId? at h
  split at h
  · rename_i page second rest hs
    split at h
    · left
      rw [hs, ← Option.some.inj h]
      simp
    · exact .inr (feedChannelId_eq_some_iff.mp h)
  · exact .inr (feedChannelId_eq_some_iff.mp h)

theorem mem_or_param_of_channelId (h : channelId? url = some id) :
    id ∈ url.segments ∨ url.param? "channel_id" = some id :=
  (source_of_channelId h).imp_right And.right

end YouTube

namespace Odysee
variable {url : Url} {id : String}

theorem isClaim_iff {segment : String} :
    isClaim segment = true ↔ ':' ∈ segment.toList ∧ segment.toList.head? ≠ some '@' := by
  simp [isClaim]

theorem isChannel_iff {segment : String} :
    isChannel segment = true ↔ ∃ c rest, segment.toList = '@' :: c :: rest := by
  unfold isChannel
  split
  · rename_i c rest h
    simp [h]
  · rename_i h
    simpa using h

/-- A channel that can have videos. -/
def isNamedChannel (segment : String) : Bool := isChannel segment && segment.toList.contains ':'

theorem isNamedChannel_iff {segment : String} : isNamedChannel segment = true ↔
    (∃ c rest, segment.toList = '@' :: c :: rest) ∧ ':' ∈ segment.toList := by
  rw [isNamedChannel, Bool.and_eq_true, isChannel_iff, List.contains_iff_mem]

theorem mem_of_videoId (h : videoId? url = some id) : id ∈ url.segments ∧ isClaim id = true := by
  obtain ⟨hlast, hclaim⟩ := Option.filter_eq_some_iff.mp h
  exact ⟨List.mem_of_getLast? hlast, hclaim⟩

theorem mem_of_videoChannelId (h : videoChannelId? url = some id) :
    id ∈ url.segments ∧ isNamedChannel id = true :=
  ⟨List.mem_of_find?_eq_some h, List.find?_some h⟩

theorem mem_of_channelId (h : channelId? url = some id) :
    id ∈ url.segments ∧ isChannel id = true :=
  ⟨List.mem_of_find?_eq_some h, List.find?_some h⟩

end Odysee

theorem Reddit.mem_of_subreddit {url : Url} {name : String} (h : subreddit? url = some name) :
    name ∈ url.segments := by
  unfold subreddit? at h
  split at h
  · rename_i page second rest hsegments
    split at h
    · rw [hsegments, ← Option.some.inj h]
      simp
    · cases h
  · cases h

/-- An identifier that can stand as a segment of a path: not empty, printable, and no dot segment. -/
structure IsPathSegment (id : String) : Prop where
  nonempty : id ≠ ""
  plain : Path.IsPlain id.toList

def Resource.IsWellFormed (url : Url) : Resource → Prop
  | youtubeVideo id => IsPathSegment id ∨
      id ≠ "" ∧ url.host? ≠ some "youtu.be" ∧ url.param? "v" = some id
  | youtubeChannel id => IsPathSegment id ∨
      id ≠ "" ∧ (url.host? = some "www.youtube.com" ∧ url.pathText = YouTube.feedPath) ∧
        url.param? "channel_id" = some id
  | odyseeVideo id channel => IsPathSegment id ∧ ':' ∈ id.toList ∧ id.toList.head? ≠ some '@' ∧
      ∀ owner ∈ channel, IsPathSegment owner ∧
        (∃ c rest, owner.toList = '@' :: c :: rest) ∧ ':' ∈ owner.toList
  | odyseeChannel id => IsPathSegment id ∧ ∃ c rest, id.toList = '@' :: c :: rest
  | subreddit name => IsPathSegment name

variable {link : String} {url : Url} {resource : Resource}

theorem isPathSegment_of_mem (hurl : parse? link = some url) {id : String}
    (h : id ∈ url.segments) : IsPathSegment id :=
  ⟨ne_empty_of_mem_segments h, isPlain_of_mem_segments hurl h⟩

theorem isPathSegment_or_param (hurl : parse? link = some url) {name id : String} {place : Prop}
    (h : id ∈ url.segments ∨ place ∧ url.param? name = some id) :
    IsPathSegment id ∨ id ≠ "" ∧ place ∧ url.param? name = some id := by
  rcases h with hmem | ⟨hplace, hparam⟩
  · exact .inl (isPathSegment_of_mem hurl hmem)
  · exact .inr ⟨ne_empty_of_param hparam, hplace, hparam⟩

theorem isWellFormed_of_recognize (hurl : parse? link = some url)
    (h : recognize? url = some resource) : resource.IsWellFormed url := by
  have hhosts := hosts_of_recognize h
  cases hservice : resource.service with
  | youtube =>
    rw [hservice] at hhosts
    rw [YouTube.recognize_of_hosts hhosts] at h
    rcases Option.or_eq_some_iff.mp h with h | ⟨_, h⟩
    · obtain ⟨id, hid, rfl⟩ := Option.map_eq_some_iff.mp h
      exact isPathSegment_or_param hurl (YouTube.source_of_videoId hid)
    · obtain ⟨id, hid, rfl⟩ := Option.map_eq_some_iff.mp h
      exact isPathSegment_or_param hurl (YouTube.source_of_channelId hid)
  | odysee =>
    rw [hservice] at hhosts
    rw [Odysee.recognize_of_hosts hhosts] at h
    rcases Option.or_eq_some_iff.mp h with h | ⟨_, h⟩
    · obtain ⟨id, hid, rfl⟩ := Option.map_eq_some_iff.mp h
      obtain ⟨hmem, hclaim⟩ := Odysee.mem_of_videoId hid
      obtain ⟨hcolon, hhead⟩ := Odysee.isClaim_iff.mp hclaim
      refine ⟨isPathSegment_of_mem hurl hmem, hcolon, hhead, fun owner howner => ?_⟩
      obtain ⟨hmem, hnamed⟩ := Odysee.mem_of_videoChannelId howner
      exact ⟨isPathSegment_of_mem hurl hmem, Odysee.isNamedChannel_iff.mp hnamed⟩
    · obtain ⟨id, hid, rfl⟩ := Option.map_eq_some_iff.mp h
      obtain ⟨hmem, hchannel⟩ := Odysee.mem_of_channelId hid
      exact ⟨isPathSegment_of_mem hurl hmem, Odysee.isChannel_iff.mp hchannel⟩
  | reddit =>
    rw [hservice] at hhosts
    rw [Reddit.recognize_of_hosts hhosts] at h
    obtain ⟨name, hname, rfl⟩ := Option.map_eq_some_iff.mp h
    exact isPathSegment_of_mem hurl (Reddit.mem_of_subreddit hname)

theorem Resource.IsWellFormed.ne_empty (h : resource.IsWellFormed url) :
    ∀ entry ∈ resource.identifiers, entry.2 ≠ "" := by
  cases resource with
  | youtubeVideo id | youtubeChannel id =>
    have hid : id ≠ "" := h.elim IsPathSegment.nonempty And.left
    simpa [identifiers] using hid
  | odyseeVideo id channel =>
    obtain ⟨hid, _, _, howner⟩ := h
    cases channel with
    | none => simpa [identifiers] using hid.nonempty
    | some owner => simpa [identifiers] using ⟨(howner owner rfl).1.nonempty, hid.nonempty⟩
  | odyseeChannel id => simpa [identifiers] using h.1.nonempty
  | subreddit name => simpa [identifiers] using IsPathSegment.nonempty h

/-- Whatever a link names, of whatever scheme: no identifier is empty, those that were read from a
path are segments of it, and those of Odysee have the marks of a claim or of a channel. -/
theorem classified_resource_is_well_formed (h : classify? link = some resource) :
    ∃ url, parse? link = some url ∧ (∀ entry ∈ resource.identifiers, entry.2 ≠ "") ∧
      resource.IsWellFormed url := by
  rw [classify_eq] at h
  obtain ⟨url, hurl, hfound⟩ := Option.bind_eq_some_iff.mp h
  have hformed := isWellFormed_of_recognize hurl hfound
  exact ⟨url, hurl, hformed.ne_empty, hformed⟩

theorem claim_of_other_scheme_is_well_formed :
    classify? "app://odysee.com/x/%2E./@c:1//a\\\x7bb :2" =
        some (.odyseeVideo "a\\%7Bb%20:2" (some "@c:1")) ∧
      IsPathSegment "a\\%7Bb%20:2" ∧ IsPathSegment "@c:1" := by
  have h : classify? "app://odysee.com/x/%2E./@c:1//a\\\x7bb :2" =
      some (.odyseeVideo "a\\%7Bb%20:2" (some "@c:1")) := by decide +kernel
  obtain ⟨_, _, _, hid, _, _, howner⟩ := classified_resource_is_well_formed h
  exact ⟨h, hid, (howner "@c:1" rfl).1⟩

end Permalink
