import Permalink.Proofs.Recognizer.Builtin

set_option autoImplicit false

namespace Permalink

variable {url : Url} {order : List Recognizer}

theorem filter_covers_of_perm (hperm : order.Perm builtinRecognizers)
    (hsub : ∀ service : Service, service.recognizers.Sublist order) (url : Url) :
    order.filter (·.covers url) = builtinRecognizers.filter (·.covers url) := by
  have hfilter := hperm.filter (·.covers url)
  by_cases hhosts : ∃ service : Service, service.Hosts url
  · obtain ⟨service, h⟩ := hhosts
    have hkept := (hsub service).filter (·.covers url)
    rw [Service.filter_covers_recognizers h, if_pos rfl, ← filter_covers_builtin h] at hkept
    exact (hkept.eq_of_length hfilter.length_eq.symm).symm
  · have hnone : builtinRecognizers.filter (·.covers url) = [] := by
      refine List.filter_eq_nil_iff.mpr fun recognizer hmem hcovers => ?_
      obtain ⟨service, hof⟩ := exists_isOf hmem
      exact hhosts ⟨service, (hof.covers_iff url).mp hcovers⟩
    rw [hnone] at hfilter ⊢
    exact hfilter.eq_nil

theorem findSome_of_perm (hperm : order.Perm builtinRecognizers)
    (hsub : ∀ service : Service, service.recognizers.Sublist order) (url : Url) :
    order.findSome? (·.recognize? url) = recognize? url := by
  have husual : ∀ recognizer ∈ order, recognizer.IsUsual := fun _ hmem =>
    isUsual_of_mem (hperm.mem_iff.mp hmem)
  rw [← findSome_filter_covers husual, filter_covers_of_perm hperm hsub,
    findSome_filter_covers fun _ => isUsual_of_mem]
  rfl

theorem exists_service_of_recognize (url : Url) : ∃ service : Service,
    ∀ recognizer ∈ builtinRecognizers, (recognizer.recognize? url).isSome →
      recognizer ∈ service.recognizers := by
  have hcovers {recognizer : Recognizer} (hmem : recognizer ∈ builtinRecognizers)
      (h : (recognizer.recognize? url).isSome) : recognizer.covers url = true := by
    obtain ⟨resource, hresource⟩ := Option.isSome_iff_exists.mp h
    exact ((isUsual_of_mem hmem).recognize_eq_some_iff.mp hresource).1
  by_cases hhosts : ∃ service : Service, service.Hosts url
  · obtain ⟨service, h⟩ := hhosts
    refine ⟨service, fun recognizer hmem hsome => ?_⟩
    rw [← filter_covers_builtin h]
    exact List.mem_filter.mpr ⟨hmem, hcovers hmem hsome⟩
  · refine ⟨.youtube, fun recognizer hmem hsome => ?_⟩
    obtain ⟨service, hof⟩ := exists_isOf hmem
    exact absurd ⟨service, (hof.covers_iff url).mp (hcovers hmem hsome)⟩ hhosts

theorem recognize_of_head (service : Service) {first : Recognizer} {others : List Recognizer}
    {resource : Resource} (hlist : service.recognizers = first :: others)
    (h : first.recognize? url = some resource) : recognize? url = some resource := by
  have hof : first.IsOf service := Service.isOf_of_mem (hlist ▸ List.mem_cons_self)
  obtain ⟨hcovers, hread⟩ := hof.recognize_eq_some_iff.mp h
  rw [((hof.covers_iff url).mp hcovers).recognize_eq, hlist, List.findSome?_cons, hread]

theorem kind_of_videos {recognizer : Recognizer} (hmem : recognizer ∈ [YouTube.videos, Odysee.videos])
    {resource : Resource} (h : recognizer.recognize? url = some resource) :
    resource.kind = .video := by
  simp only [List.mem_cons, List.not_mem_nil, or_false] at hmem
  have husual : recognizer.IsUsual := by
    apply isUsual_of_mem
    rcases hmem with rfl | rfl <;> simp [builtinRecognizers]
  have hread := (husual.recognize_eq_some_iff.mp h).2
  rcases hmem with rfl | rfl <;> obtain ⟨_, _, rfl⟩ := Option.map_eq_some_iff.mp hread <;> rfl

/-- Only the order inside a service matters: a link goes to the same resource in every order that
keeps videos before the channels of their service, and to the video where both are found. -/
theorem classify_order_within_services (link : String) :
    (∃ service : Service, ∀ url, Url.parse? link = some url →
      ∀ recognizer ∈ builtinRecognizers, (recognizer.recognize? url).isSome →
        recognizer ∈ service.recognizers) ∧
    (∀ order : List Recognizer, order.Perm builtinRecognizers →
      [YouTube.videos, YouTube.channels].Sublist order →
      [Odysee.videos, Odysee.channels].Sublist order →
        (Registry.mk order).classify? link = classify? link) ∧
    ∀ url video channel, Url.parse? link = some url →
      (YouTube.videos.recognize? url = some video ∧ YouTube.channels.recognize? url = some channel ∨
        Odysee.videos.recognize? url = some video ∧ Odysee.channels.recognize? url = some channel) →
        video.kind = .video ∧ classify? link = some video := by
  refine ⟨?_, fun order hperm hyoutube hodysee => ?_, ?_⟩
  · cases hurl : Url.parse? link with
    | none => exact ⟨.youtube, by simp⟩
    | some url =>
      obtain ⟨service, h⟩ := exists_service_of_recognize url
      exact ⟨service, by simpa using h⟩
  · have hreddit : [Reddit.subreddits].Sublist order :=
      List.singleton_sublist.mpr (hperm.mem_iff.mpr (by simp [builtinRecognizers]))
    have hsub : ∀ service : Service, service.recognizers.Sublist order := by
      intro service
      cases service with
      | youtube => exact hyoutube
      | odysee => exact hodysee
      | reddit => exact hreddit
    rw [Registry.classify_eq, classify_eq, funext (findSome_of_perm hperm hsub)]
  · intro url video channel hurl hclaims
    rw [classify_eq, hurl, Option.bind_some]
    rcases hclaims with ⟨hvideo, _⟩ | ⟨hvideo, _⟩
    · exact ⟨kind_of_videos (by simp) hvideo, recognize_of_head .youtube rfl hvideo⟩
    · exact ⟨kind_of_videos (by simp) hvideo, recognize_of_head .odysee rfl hvideo⟩

def rotatedRecognizers : List Recognizer :=
  Service.odysee.recognizers ++ Service.reddit.recognizers ++ Service.youtube.recognizers

theorem classify_channel_page_of_video_in_other_order :
    rotatedRecognizers.Perm builtinRecognizers ∧
      [YouTube.videos, YouTube.channels].Sublist rotatedRecognizers ∧
      [Odysee.videos, Odysee.channels].Sublist rotatedRecognizers ∧
      ((Url.parse? "https://www.youtube.com/channel/a?v=b").bind YouTube.channels.recognize?) =
        some (.youtubeChannel "a") ∧
      (Registry.mk rotatedRecognizers).classify? "https://www.youtube.com/channel/a?v=b" =
        some (.youtubeVideo "b") := by
  have hperm : rotatedRecognizers.Perm builtinRecognizers := by
    rw [builtinRecognizers_eq, List.append_assoc]
    exact List.perm_append_comm
  have hyoutube : [YouTube.videos, YouTube.channels].Sublist rotatedRecognizers :=
    List.sublist_append_right _ _
  have hodysee : [Odysee.videos, Odysee.channels].Sublist rotatedRecognizers :=
    (List.sublist_append_left _ _).trans (List.sublist_append_left _ _)
  have hclassify : classify? "https://www.youtube.com/channel/a?v=b" = some (.youtubeVideo "b") := by
    decide +kernel
  refine ⟨hperm, hyoutube, hodysee, by decide +kernel, ?_⟩
  rw [(classify_order_within_services _).2.1 rotatedRecognizers hperm hyoutube hodysee, hclassify]

end Permalink
