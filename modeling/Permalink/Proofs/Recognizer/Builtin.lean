import Mathlib.Data.List.Basic
import Permalink.Recognizer

set_option autoImplicit false

namespace Permalink

def recognize? (url : Url) : Option Resource :=
  builtinRecognizers.findSome? (·.recognize? url)

theorem findSome_congr {α β : Type} {f g : α → Option β} {l : List α}
    (h : ∀ a ∈ l, f a = g a) : l.findSome? f = l.findSome? g := by
  rw [← List.head?_filterMap, ← List.head?_filterMap, List.filterMap_congr h]

theorem Registry.findIn_map_snd (registry : Registry) (url : Url) :
    (registry.findIn? url).map (·.2) = registry.recognizers.findSome? (·.recognize? url) := by
  unfold Registry.findIn?
  induction registry.recognizers with
  | nil => rfl
  | cons recognizer others ih =>
    simp only [List.findSome?_cons]
    cases recognizer.recognize? url with
    | none => exact ih
    | some resource => rfl

theorem Registry.classify_eq (registry : Registry) (link : String) : registry.classify? link =
    (Url.parse? link).bind fun url => registry.recognizers.findSome? (·.recognize? url) := by
  rw [Registry.classify?, Registry.find?]
  cases Url.parse? link with
  | none => rfl
  | some url => exact registry.findIn_map_snd url

theorem classify_eq (link : String) : classify? link = (Url.parse? link).bind recognize? :=
  Registry.builtin.classify_eq link

/-- The recognizer looks at the host and reads what is there, as one does that says nothing else. -/
structure Recognizer.IsUsual (recognizer : Recognizer) : Prop where
  covers_eq (url : Url) : recognizer.covers url = url.host?.any recognizer.acceptsHost
  recognize_eq (url : Url) : recognizer.recognize? url =
    if recognizer.covers url then recognizer.read? url else none

theorem isUsual_of_mem {recognizer : Recognizer} (h : recognizer ∈ builtinRecognizers) :
    recognizer.IsUsual := by
  simp only [builtinRecognizers, List.mem_cons, List.not_mem_nil, or_false] at h
  rcases h with rfl | rfl | rfl | rfl | rfl <;> exact ⟨fun _ => rfl, fun _ => rfl⟩

theorem Recognizer.IsUsual.recognize_eq_some_iff {recognizer : Recognizer} {url : Url}
    {resource : Resource} (h : recognizer.IsUsual) : recognizer.recognize? url = some resource ↔
      recognizer.covers url = true ∧ recognizer.read? url = some resource := by
  simp [h.recognize_eq]

theorem Recognizer.IsUsual.recognize_of_not_covers {recognizer : Recognizer} {url : Url}
    (h : recognizer.IsUsual) (hcovers : recognizer.covers url = false) :
    recognizer.recognize? url = none := by
  simp [h.recognize_eq, hcovers]

def Service.hosts : Service → List String
  | youtube => YouTube.hosts
  | odysee => Odysee.hosts
  | reddit => Reddit.hosts

def Service.Hosts (service : Service) (url : Url) : Prop :=
  ∃ host ∈ service.hosts, url.host? = some host

theorem Service.eq_of_mem_hosts {host : String} {a b : Service} (ha : host ∈ a.hosts)
    (hb : host ∈ b.hosts) : a = b := by
  have hdisjoint : ∀ a b : Service, (∃ host ∈ a.hosts, host ∈ b.hosts) → a = b := by
    intro a b
    cases a <;> cases b <;> decide
  exact hdisjoint a b ⟨host, ha, hb⟩

theorem Service.Hosts.eq {url : Url} {a b : Service} (ha : a.Hosts url) (hb : b.Hosts url) :
    a = b := by
  obtain ⟨host, hmem, hhost⟩ := ha
  obtain ⟨other, hother, heq⟩ := hb
  rw [hhost, Option.some.injEq] at heq
  exact Service.eq_of_mem_hosts hmem (heq ▸ hother)

/-- A recognizer of the service holds at the hosts of the service and nowhere else. -/
structure Recognizer.IsOf (recognizer : Recognizer) (service : Service) : Prop
    extends recognizer.IsUsual where
  accepts : recognizer.acceptsHost = service.hosts.contains
  reads : ∀ url resource, recognizer.read? url = some resource → resource.service = service

theorem Recognizer.IsOf.covers_iff {recognizer : Recognizer} {service : Service}
    (h : recognizer.IsOf service) (url : Url) :
    recognizer.covers url = true ↔ service.Hosts url := by
  rw [h.covers_eq, h.accepts, Service.Hosts]
  cases url.host? with
  | none => simp
  | some host => simp [eq_comm]

theorem Recognizer.isOf_of_map {recognizer : Recognizer} {service : Service}
    {id? : Url → Option String} {resource : Url → String → Resource}
    (husual : recognizer.IsUsual)
    (haccepts : recognizer.acceptsHost = service.hosts.contains)
    (hread : ∀ url, recognizer.read? url = (id? url).map (resource url))
    (hservice : ∀ url id, (resource url id).service = service) : recognizer.IsOf service := by
  refine ⟨husual, haccepts, fun url found h => ?_⟩
  rw [hread] at h
  obtain ⟨id, _, rfl⟩ := Option.map_eq_some_iff.mp h
  exact hservice url id

/-- The recognizers of a service, in the order in which they are asked. -/
def Service.recognizers : Service → List Recognizer
  | youtube => [YouTube.videos, YouTube.channels]
  | odysee => [Odysee.videos, Odysee.channels]
  | reddit => [Reddit.subreddits]

theorem builtinRecognizers_eq : builtinRecognizers =
    Service.youtube.recognizers ++ Service.odysee.recognizers ++ Service.reddit.recognizers := rfl

theorem Service.mem_builtin {service : Service} {recognizer : Recognizer}
    (h : recognizer ∈ service.recognizers) : recognizer ∈ builtinRecognizers := by
  rw [builtinRecognizers_eq, List.mem_append, List.mem_append]
  cases service with
  | youtube => exact .inl (.inl h)
  | odysee => exact .inl (.inr h)
  | reddit => exact .inr h

theorem Service.isOf_of_mem {service : Service} {recognizer : Recognizer}
    (h : recognizer ∈ service.recognizers) : recognizer.IsOf service := by
  have husual := isUsual_of_mem (Service.mem_builtin h)
  cases service with
  | youtube =>
    simp only [recognizers, List.mem_cons, List.not_mem_nil, or_false] at h
    rcases h with rfl | rfl <;>
      exact Recognizer.isOf_of_map husual rfl (fun _ => rfl) fun _ _ => rfl
  | odysee =>
    simp only [recognizers, List.mem_cons, List.not_mem_nil, or_false] at h
    rcases h with rfl | rfl <;>
      exact Recognizer.isOf_of_map husual rfl (fun _ => rfl) fun _ _ => rfl
  | reddit =>
    obtain rfl := List.mem_singleton.mp h
    exact Recognizer.isOf_of_map husual rfl (fun _ => rfl) fun _ _ => rfl

theorem exists_isOf {recognizer : Recognizer} (h : recognizer ∈ builtinRecognizers) :
    ∃ service, recognizer.IsOf service := by
  rw [builtinRecognizers_eq, List.mem_append, List.mem_append] at h
  rcases h with (h | h) | h
  · exact ⟨_, Service.isOf_of_mem h⟩
  · exact ⟨_, Service.isOf_of_mem h⟩
  · exact ⟨_, Service.isOf_of_mem h⟩

theorem hosts_of_recognize {url : Url} {resource : Resource} (h : recognize? url = some resource) :
    resource.service.Hosts url := by
  obtain ⟨recognizer, hmem, hfound⟩ := List.exists_of_findSome?_eq_some h
  obtain ⟨service, hof⟩ := exists_isOf hmem
  obtain ⟨hcovers, hread⟩ := hof.recognize_eq_some_iff.mp hfound
  rw [hof.reads url resource hread]
  exact (hof.covers_iff url).mp hcovers

/-- What the known services look at in a URL. -/
@[ext] structure View where
  host : Option String
  segments : List String
  video : Option String
  feedChannel : Option String

def Url.view (url : Url) : View :=
  ⟨url.host?, url.segments, url.param? "v", YouTube.feedChannelId? url⟩

theorem recognize_of_view {a b : Url} (h : a.view = b.view) : recognize? a = recognize? b := by
  obtain ⟨hhost, hsegments, hvideo, hfeed⟩ := View.mk.inj h
  have hread : ∀ recognizer ∈ builtinRecognizers, recognizer.read? a = recognizer.read? b := by
    intro recognizer hmem
    simp only [builtinRecognizers, List.mem_cons, List.not_mem_nil, or_false] at hmem
    rcases hmem with rfl | rfl | rfl | rfl | rfl
    · simp only [YouTube.videos, YouTube.videoId?, hhost, hvideo, hsegments]
    · simp only [YouTube.channels, YouTube.channelId?, hfeed, hsegments]
    · simp only [Odysee.videos, Odysee.videoId?, Odysee.videoChannelId?, hsegments]
    · simp only [Odysee.channels, Odysee.channelId?, hsegments]
    · simp only [Reddit.subreddits, Reddit.subreddit?, hsegments]
  refine findSome_congr fun recognizer hmem => ?_
  have husual := isUsual_of_mem hmem
  rw [husual.recognize_eq, husual.recognize_eq, husual.covers_eq, husual.covers_eq, hhost,
    hread recognizer hmem]

theorem recognize_congr {a b : Url} (hhost : a.host? = b.host?) (hpath : a.path = b.path)
    (hvideo : a.param? "v" = b.param? "v") (hchannel : a.param? "channel_id" = b.param? "channel_id") :
    recognize? a = recognize? b := by
  have hsegments : a.segments = b.segments := by rw [Url.segments, hpath, Url.segments]
  have hpathText : a.pathText = b.pathText := by rw [Url.pathText, hpath, Url.pathText]
  have hfeed : YouTube.feedChannelId? a = YouTube.feedChannelId? b := by
    rw [YouTube.feedChannelId?, hhost, hpathText, hchannel, YouTube.feedChannelId?]
  apply recognize_of_view
  rw [Url.view, hhost, hsegments, hvideo, hfeed, Url.view]

theorem classify_of_view {a b : String}
    (h : (Url.parse? a).map Url.view = (Url.parse? b).map Url.view) : classify? a = classify? b := by
  rw [classify_eq, classify_eq]
  cases ha : Url.parse? a <;> cases hb : Url.parse? b <;> simp only [ha, hb] at h
  · rfl
  · cases h
  · cases h
  · exact recognize_of_view (Option.some.inj h)

/-- Those that do not hold at the host of a URL have no say. -/
theorem findSome_filter_covers {order : List Recognizer}
    (h : ∀ recognizer ∈ order, recognizer.IsUsual) (url : Url) :
    (order.filter (·.covers url)).findSome? (·.recognize? url) =
      order.findSome? (·.recognize? url) := by
  induction order with
  | nil => rfl
  | cons recognizer order ih =>
    obtain ⟨hhead, hothers⟩ := List.forall_mem_cons.mp h
    rw [List.filter_cons, List.findSome?_cons]
    split
    · rw [List.findSome?_cons, ih hothers]
    · rename_i hcovers
      rw [hhead.recognize_of_not_covers (by simpa using hcovers), ih hothers]

section Hosts
variable {service : Service} {url : Url}

theorem Service.filter_covers_recognizers (h : service.Hosts url) (other : Service) :
    other.recognizers.filter (·.covers url) = if other = service then other.recognizers else [] := by
  split
  · rename_i heq
    refine List.filter_eq_self.mpr fun recognizer hmem => ?_
    exact ((isOf_of_mem hmem).covers_iff url).mpr (heq ▸ h)
  · rename_i hne
    refine List.filter_eq_nil_iff.mpr fun recognizer hmem hcovers => ?_
    exact hne ((((isOf_of_mem hmem).covers_iff url).mp hcovers).eq h)

theorem filter_covers_builtin (h : service.Hosts url) :
    builtinRecognizers.filter (·.covers url) = service.recognizers := by
  rw [builtinRecognizers_eq, List.filter_append, List.filter_append,
    Service.filter_covers_recognizers h, Service.filter_covers_recognizers h,
    Service.filter_covers_recognizers h]
  cases service <;> simp

/-- At a host of a service its own recognizers decide, and they need not look at the host again. -/
theorem Service.Hosts.recognize_eq (h : service.Hosts url) :
    recognize? url = service.recognizers.findSome? (·.read? url) := by
  rw [recognize?, ← findSome_filter_covers fun _ => isUsual_of_mem, filter_covers_builtin h]
  refine findSome_congr fun recognizer hmem => ?_
  have hof := isOf_of_mem hmem
  rw [hof.recognize_eq, if_pos ((hof.covers_iff url).mpr h)]

theorem Odysee.recognize_of_hosts (h : Service.odysee.Hosts url) : recognize? url =
    ((videoId? url).map fun id => .odyseeVideo id (videoChannelId? url)).or
      ((channelId? url).map .odyseeChannel) := by
  rw [h.recognize_eq]
  simp only [Service.recognizers, List.findSome?_cons, List.findSome?_nil, videos, channels]
  cases videoId? url <;> cases channelId? url <;> rfl

theorem Reddit.recognize_of_hosts (h : Service.reddit.Hosts url) :
    recognize? url = (subreddit? url).map .subreddit := by
  rw [h.recognize_eq]
  simp only [Service.recognizers, List.findSome?_cons, List.findSome?_nil, subreddits]
  cases subreddit? url <;> rfl

end Hosts

namespace YouTube

variable {url : Url} {id : String}

/-- A URL at a host of YouTube is a video if it can be, else a channel if it can be. -/
theorem recognize_of_hosts (h : Service.youtube.Hosts url) : recognize? url =
    ((videoId? url).map .youtubeVideo).or ((channelId? url).map .youtubeChannel) := by
  rw [h.recognize_eq]
  simp only [Service.recognizers, List.findSome?_cons, List.findSome?_nil, videos, channels]
  cases videoId? url <;> cases channelId? url <;> rfl

theorem recognize_eq_video_iff : recognize? url = some (.youtubeVideo id) ↔
    Service.youtube.Hosts url ∧ videoId? url = some id := by
  constructor
  · intro h
    have hhosts := hosts_of_recognize h
    refine ⟨hhosts, ?_⟩
    rw [recognize_of_hosts hhosts] at h
    cases hv : videoId? url <;> simp_all
  · rintro ⟨hhosts, hv⟩
    rw [recognize_of_hosts hhosts, hv]
    rfl

theorem recognize_eq_channel_iff : recognize? url = some (.youtubeChannel id) ↔
    Service.youtube.Hosts url ∧ videoId? url = none ∧ channelId? url = some id := by
  constructor
  · intro h
    have hhosts := hosts_of_recognize h
    refine ⟨hhosts, ?_⟩
    rw [recognize_of_hosts hhosts] at h
    cases hv : videoId? url <;> simp_all
  · rintro ⟨hhosts, hv, hc⟩
    rw [recognize_of_hosts hhosts, hv, hc]
    rfl

end YouTube
end Permalink
