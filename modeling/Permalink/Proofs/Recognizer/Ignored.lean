import Permalink.Proofs.Recognizer.Builtin
import Permalink.Proofs.Url.Normal

set_option autoImplicit false

namespace Permalink
open Text

namespace Url

section Web
variable {scheme : Scheme}

def place (found : Authority × Path) : Option Host × Path := (found.1.host, found.2)

def viewAt (query : Option (List Char)) (place : Option Host × Path) : View :=
  view ⟨.https, some ⟨[], [], place.1, none⟩, place.2,
    query.map (Percent.encode Percent.specialQuerySet), none⟩

/-- A text of a web URL, from behind the scheme and two slashes. -/
def webText (scheme : Scheme) (cs : List Char) : List Char :=
  scheme.name ++ ':' :: '/' :: '/' :: cs

def webView? (scheme : Scheme) (cs : List Char) : Option View :=
  let body := before '#' ('/' :: '/' :: cs)
  ((specialLocation? scheme (before '?' body)).map place).map (viewAt (after? '?' body))

theorem webText_append (scheme : Scheme) (cs back : List Char) :
    webText scheme (cs ++ back) = webText scheme cs ++ back := by simp [webText]

theorem cleanse_webText (h : scheme = .http ∨ scheme = .https) (cs : List Char) :
    cleanse (webText scheme cs) = webText scheme (cleanseEnd cs) := by
  have hfront : IsFront (webText scheme []) := by
    rcases h with rfl | rfl <;> decide
  have hne : webText scheme [] ≠ [] := by simp [webText]
  have hcleanse := hfront.cleanse_append hne cs
  rwa [← webText_append, ← webText_append] at hcleanse

theorem view_webText (h : scheme = .http ∨ scheme = .https) (cs : List Char) :
    (ofChars? (webText scheme cs)).map view = webView? scheme (cleanseEnd cs) := by
  have hread : Scheme.read? (cleanse (webText scheme cs)) =
      some (scheme, '/' :: '/' :: cleanseEnd cs) := by
    rw [cleanse_webText h]
    exact Scheme.read_of_web h _
  rw [ofChars?, hread, Option.bind_some]
  simp only [location_of_web h, querySetOf_of_web h, Option.map_map, webView?]
  rfl

theorem map_port_eq {α : Type} (a b : Scheme) (tail : List Char) (value : α) :
    (Authority.port? a tail).map (fun _ => value) =
      (Authority.port? b tail).map fun _ => value := by
  cases tail with
  | nil => rfl
  | cons c cs =>
    simp only [Authority.port?]
    split
    · rfl
    · split <;> split <;> rfl

theorem host_ofText_http (cs : List Char) :
    (Authority.ofText? .http true cs).map (·.1.host) =
      (Authority.ofText? .https true cs).map (·.1.host) := by
  rw [Authority.ofText?, Authority.ofText?, Option.map_bind, Option.map_bind]
  refine Option.bind_congr fun cut _ => ?_
  simp only [Function.comp_apply, Option.map_bind]
  refine Option.bind_congr fun host _ => ?_
  rw [Option.map_map, Option.map_map]
  exact map_port_eq .http .https _ host

theorem place_http (cs : List Char) :
    (specialLocation? .http cs).map place = (specialLocation? .https cs).map place := by
  have hplace (tail : List Char) : place ∘ (fun found : Authority × List Char =>
      (found.1, Path.ofSpecialText tail)) =
      (fun host => (host, Path.ofSpecialText tail)) ∘ fun found => found.1.host := rfl
  simp only [specialLocation?, Option.map_map, hplace]
  rw [← Option.map_map, host_ofText_http, Option.map_map]

theorem webView_http (cs : List Char) : webView? .http cs = webView? .https cs := by
  simp only [webView?, place_http]

theorem takeWhile_concat_of_neg {p : Char → Bool} {c : Char} (h : p c = false) (cs : List Char) :
    (cs ++ [c]).takeWhile p = cs.takeWhile p := by
  rw [List.takeWhile_append]
  split
  · rename_i hall
    simp [h, (List.takeWhile_prefix p).eq_of_length hall]
  · rfl

theorem dropWhile_concat_of_neg {p : Char → Bool} {c : Char} (h : p c = false) (cs : List Char) :
    (cs ++ [c]).dropWhile p = cs.dropWhile p ++ [c] := by
  rw [List.dropWhile_append]
  split
  · rename_i hall
    rw [List.isEmpty_iff.mp hall]
    simp [h]
  · rfl

theorem webView_append_fragment (scheme : Scheme) (cs fragment : List Char) :
    webView? scheme (cs ++ '#' :: fragment) = webView? scheme cs := by
  have hbody := before_append_cons '#' ('/' :: '/' :: cs) fragment
  simp only [webView?, ← hbody, List.cons_append]

theorem viewAt_none_of_segments {a b : List (List Char)}
    (h : a.filter (!·.isEmpty) = b.filter (!·.isEmpty)) (host : Option Host) :
    viewAt none (host, .rooted a) = viewAt none (host, .rooted b) := by
  have hfeed (path : Path) : (viewAt none (host, path)).feedChannel = none := ite_self none
  have hsegments : (viewAt none (host, .rooted a)).segments =
      (viewAt none (host, .rooted b)).segments := congrArg (List.map String.ofList) h
  exact View.ext rfl hsegments rfl ((hfeed _).trans (hfeed _).symm)

/-- At the end of slashes alone another one is dropped as they are. -/
theorem view_specialLocation_slash (scheme : Scheme) (cs : List Char) :
    (specialLocation? scheme (cs ++ ['/'])).map (viewAt none ∘ place) =
      (specialLocation? scheme cs).map (viewAt none ∘ place) := by
  unfold specialLocation?
  rw [List.dropWhile_append]
  by_cases hslashes : (cs.dropWhile Path.isAnySlash).isEmpty = true
  · rw [if_pos hslashes, List.isEmpty_iff.mp hslashes]
    rfl
  · rw [if_neg hslashes]
    have htake (cs : List Char) : (cs ++ ['/']).takeWhile (!Path.isAnySlash ·) =
        cs.takeWhile (!Path.isAnySlash ·) := takeWhile_concat_of_neg rfl cs
    have hdrop (cs : List Char) : (cs ++ ['/']).dropWhile (!Path.isAnySlash ·) =
        cs.dropWhile (!Path.isAnySlash ·) ++ ['/'] := dropWhile_concat_of_neg rfl cs
    simp only [htake, hdrop, Option.map_map]
    refine Option.map_congr fun found _ => ?_
    exact viewAt_none_of_segments (Path.filter_resolve_split_slash _) found.1.host

theorem webView_append_slash {cs : List Char} (hmark : '?' ∉ cs) (hsharp : '#' ∉ cs) :
    webView? scheme (cs ++ ['/']) = webView? scheme cs := by
  have hbody {text : List Char} (hmark : '?' ∉ text) (hsharp : '#' ∉ text) :
      webView? scheme text =
        (specialLocation? scheme ('/' :: '/' :: text)).map (viewAt none ∘ place) := by
    have hsharp' : '#' ∉ '/' :: '/' :: text := by simpa using hsharp
    have hmark' : '?' ∉ '/' :: '/' :: text := by simpa using hmark
    simp only [webView?, before_eq_self_of_not_mem hsharp', before_eq_self_of_not_mem hmark',
      after_eq_none_iff.mpr hmark', Option.map_map]
  rw [hbody hmark hsharp, hbody (by simpa using hmark) (by simpa using hsharp)]
  exact view_specialLocation_slash scheme ('/' :: '/' :: cs)

/-- What is written behind a web URL that ends visibly is cleansed by itself. -/
theorem exists_webView_append {u : String}
    (hweb : "http://".toList <+: u.toList ∨ "https://".toList <+: u.toList)
    (hlast : ∀ c ∈ u.toList.getLast?, 0x20 < c.toNat) :
    ∃ scheme cs, (∀ c ∈ cs, c ∈ u.toList) ∧ (parse? u).map view = webView? scheme cs ∧
      ∀ back : String, (parse? (u ++ back)).map view =
        webView? scheme (cs ++ cleanseEnd back.toList) := by
  obtain ⟨scheme, cs, hscheme, hu⟩ :
      ∃ scheme cs, (scheme = .http ∨ scheme = .https) ∧ u.toList = webText scheme cs := by
    rcases hweb with ⟨cs, hu⟩ | ⟨cs, hu⟩
    · exact ⟨.http, cs, .inl rfl, hu.symm⟩
    · exact ⟨.https, cs, .inr rfl, hu.symm⟩
  have hsuffix : u.toList = webText scheme [] ++ cs := by rw [← webText_append, hu, List.nil_append]
  have hend : ∀ c ∈ cs.getLast?, isEdge c = false := by
    intro c hc
    rw [isEdge_eq_false_iff]
    apply hlast c
    rw [hsuffix]
    exact List.mem_getLast?_append_of_mem_getLast? hc
  refine ⟨scheme, cleanseEnd cs, fun c hc => ?_, ?_, fun back => ?_⟩
  · rw [hsuffix]
    exact List.mem_append_right _ ((cleanseEnd_sublist cs).mem hc)
  · rw [parse?, hu, view_webText hscheme]
  · rw [parse?, String.toList_append, hu, ← webText_append, view_webText hscheme,
      cleanseEnd_append hend]

end Web
end Url

open Url

/-- Texts of web URLs that differ in the scheme, in a fragment or in a slash at the end of a path
are classified alike. -/
theorem classify_ignores_scheme_fragment_and_slash :
    (∀ s : String, classify? ("http://" ++ s) = classify? ("https://" ++ s)) ∧
      ∀ u : String, "http://".toList <+: u.toList ∨ "https://".toList <+: u.toList →
        (∀ c ∈ u.toList.getLast?, 0x20 < c.toNat) →
        (∀ f : String, classify? (u ++ "#" ++ f) = classify? u) ∧
          ('?' ∉ u.toList → '#' ∉ u.toList → classify? (u ++ "/") = classify? u) := by
  refine ⟨fun s => classify_of_view ?_, fun u hweb hlast => ?_⟩
  · have hhttp : ("http://" ++ s).toList = webText .http s.toList := String.toList_append
    have hhttps : ("https://" ++ s).toList = webText .https s.toList := String.toList_append
    rw [parse?, hhttp, view_webText (.inl rfl), parse?, hhttps, view_webText (.inr rfl)]
    exact webView_http (cleanseEnd s.toList)
  obtain ⟨scheme, cs, hmem, hview, happend⟩ := exists_webView_append hweb hlast
  constructor
  · intro f
    have hsharp : IsFront ['#'] := by decide
    have hfragment : cleanseEnd ("#" ++ f).toList = '#' :: cleanseEnd f.toList := by
      rw [String.toList_append]
      exact hsharp.cleanseEnd_append f.toList
    apply classify_of_view
    rw [String.append_assoc, happend, hfragment, webView_append_fragment, hview]
  · intro hmark hsharp
    apply classify_of_view
    rw [happend, hview]
    exact webView_append_slash (fun h => hmark (hmem _ h)) fun h => hsharp (hmem _ h)

/-- A default port, a dot segment at the end of the path, and a fragment that looks like a query. -/
theorem video_page_in_other_words :
    classify? ("http://" ++ "odysee.com:80\\v:2") =
        classify? ("https://" ++ "odysee.com:80\\v:2") ∧
      classify? ("https://odysee.com/@c:1/v:2/." ++ "#" ++ "?v=1 ") =
        some (.odyseeVideo "v:2" (some "@c:1")) ∧
      classify? ("https://odysee.com/@c:1/v:2/." ++ "/") =
        some (.odyseeVideo "v:2" (some "@c:1")) := by
  obtain ⟨hscheme, hweb⟩ := classify_ignores_scheme_fragment_and_slash
  obtain ⟨hfragment, hslash⟩ := hweb "https://odysee.com/@c:1/v:2/." (by decide) (by simp)
  have hpage : classify? "https://odysee.com/@c:1/v:2/." =
      some (.odyseeVideo "v:2" (some "@c:1")) := by decide +kernel
  exact ⟨hscheme _, (hfragment _).trans hpage, (hslash (by decide) (by decide)).trans hpage⟩

end Permalink
