import Permalink.Proofs.YouTube.RoundTrip

set_option autoImplicit false

namespace Permalink.YouTube
open Text Url Service

def isTokenChar (c : Char) : Bool := c.isAlphanum || c == '_' || c == '-'

structure IsToken (id : String) : Prop where
  nonempty : id ≠ ""
  plain : ∀ c ∈ id.toList, isTokenChar c = true

instance (id : String) : Decidable (IsToken id) :=
  decidable_of_iff (id ≠ "" ∧ id.toList.all isTokenChar = true) <| by
    rw [List.all_eq_true]
    exact ⟨fun h => ⟨h.1, h.2⟩, fun h => ⟨h.nonempty, h.plain⟩⟩

theorem isTokenChar_plain {c : Char} (h : isTokenChar c = true) : c.toNat < 128 ∧
    Percent.pathSet c = false ∧ Path.isAnySlash c = false ∧ c ∉ ['&', '#', '+', '\t', '\n', '\r'] ∧
      c ≠ '%' ∧ 0x20 < c.toNat := by
  have hascii : c.toNat < 128 := by
    simp only [isTokenChar, Bool.or_eq_true, beq_iff_eq] at h
    rcases h with (h | rfl) | rfl
    · exact Form.toNat_lt_of_isAlphanum h
    · decide
    · decide
  refine ⟨hascii, ?_⟩
  exact Form.forall_ascii (p := fun c => isTokenChar c = true → Percent.pathSet c = false ∧
    Path.isAnySlash c = false ∧ c ∉ ['&', '#', '+', '\t', '\n', '\r'] ∧ c ≠ '%' ∧ 0x20 < c.toNat)
    (by decide +kernel) hascii h

variable {id : String}

theorem IsToken.formLiteral (h : IsToken id) : Form.IsLiteral id.toList := by
  refine ⟨fun c hc => ?_, Form.unescaped_of_not_mem fun hmem => ?_, fun c hc => ?_⟩
  · exact (isTokenChar_plain (h.plain c hc)).2.2.2.1
  · exact (isTokenChar_plain (h.plain _ hmem)).2.2.2.2.1 rfl
  · exact (isTokenChar_plain (h.plain c (List.mem_of_getLast? hc))).2.2.2.2.2

theorem IsToken.not_mem_of_any (h : IsToken id) (segments : List (List Char))
    (hany : segments.all (·.any (!isTokenChar ·)) = true) : segments.contains id.toList = false := by
  rw [← Bool.not_eq_true, List.contains_iff_mem]
  intro hmem
  obtain ⟨c, hc, hother⟩ := List.any_eq_true.mp (List.all_eq_true.mp hany _ hmem)
  rw [h.plain c hc] at hother
  cases hother

theorem IsToken.pathLiteral (h : IsToken id) : Path.IsLiteral id.toList := by
  refine ⟨fun c hc => ?_, ?_, ?_⟩
  · obtain ⟨hascii, hset, hslash, _⟩ := isTokenChar_plain (h.plain c hc)
    exact ⟨hascii, hset, hslash⟩
  · exact h.not_mem_of_any Path.dots (by decide)
  · exact h.not_mem_of_any (Path.dots.flatMap fun a => Path.dots.map (a ++ ·)) (by decide)

theorem isTokenChar_visible {c : Char} (h : isTokenChar c = true) :
    isVisible c = true ∧ c ≠ '#' ∧ c ≠ '&' :=
  Form.forall_ascii (p := fun c => isTokenChar c = true → isVisible c = true ∧ c ≠ '#' ∧ c ≠ '&')
    (by decide +kernel) (isTokenChar_plain h).1 h

theorem isSite_of_mem_hosts {host : String} (h : host ∈ hosts) : IsSite host.toList := by
  have hread : ∀ host ∈ hosts,
      Authority.ofText? .https true host.toList = some (.ofName host.toList, []) := by decide
  exact isSite_of_ofText (hread host h)

/-- A piece of a query, which neither ends the query nor is more than one piece. -/
def IsPiece (piece : String) : Prop :=
  ∀ c ∈ piece.toList, isVisible c = true ∧ c ≠ '#' ∧ c ≠ '&'

instance (piece : String) : Decidable (IsPiece piece) :=
  decidable_of_iff (piece.toList.all (fun c => isVisible c && c != '#' && c != '&') = true) <| by
    simp [IsPiece, and_assoc]

def IsOther (piece : String) : Prop :=
  IsPiece piece ∧ Form.pieceName piece.toList ≠ "v".toList

instance (piece : String) : Decidable (IsOther piece) :=
  inferInstanceAs (Decidable (IsPiece piece ∧ Form.pieceName piece.toList ≠ "v".toList))

/-- A link to a video, less the identifier. -/
inductive VideoLink where
  /-- The identifier is a parameter, with other pieces of the query in front and behind. -/
  | watch (host : String) (front back : List String)
  | page (host name : String) (pieces : List String)
  | short (pieces : List String)

namespace VideoLink

def host : VideoLink → String
  | watch host _ _ => host
  | page host _ _ => host
  | short _ => "youtu.be"

def segments (id : String) : VideoLink → List String
  | watch _ _ _ => ["watch"]
  | page _ name _ => [name, id]
  | short _ => [id]

def pieces (id : String) : VideoLink → List String
  | watch _ front back => front ++ ("v=" ++ id) :: back
  | page _ _ pieces => pieces
  | short pieces => pieces

def text (id : String) (link : VideoLink) : String :=
  "https://" ++ link.host ++ "/" ++ "/".intercalate (link.segments id) ++
    if link.pieces id = [] then "" else "?" ++ "&".intercalate (link.pieces id)

example : (watch "m.youtube.com" ["t=5"] ["a"]).text "x" = "https://m.youtube.com/watch?t=5&v=x&a" := by
  decide

/-- The host and the page are those of YouTube, and nothing but the identifier names a video. Of a
short link the query does not matter. -/
def IsWellFormed : VideoLink → Prop
  | watch host front back =>
    host ∈ hosts ∧ host ≠ "youtu.be" ∧ ∀ piece ∈ front ++ back, IsOther piece
  | page host name pieces =>
    host ∈ hosts ∧ host ≠ "youtu.be" ∧ name ∈ videoPages ∧ ∀ piece ∈ pieces, IsOther piece
  | short pieces => ∀ piece ∈ pieces, IsPiece piece

def query? (id : String) (link : VideoLink) : Option (List Char) :=
  if link.pieces id = [] then none
  else some (['&'].intercalate ((link.pieces id).map String.toList))

def url (id : String) (link : VideoLink) : Url :=
  atSite link.host.toList
    (['/'].intercalate ((link.segments id).map String.toList) ++ partText '?' (link.query? id))

variable {link : VideoLink}

theorem host_mem (h : link.IsWellFormed) : link.host ∈ hosts := by
  cases link with
  | watch host front back => exact h.1
  | page host name pieces => exact h.1
  | short pieces => exact (by decide : "youtu.be" ∈ hosts)

theorem segments_ne_nil (id : String) (link : VideoLink) : link.segments id ≠ [] := by
  cases link <;> exact List.cons_ne_nil _ _

theorem isLiteral_of_mem_segments (hid : IsToken id) (h : link.IsWellFormed) {s : String}
    (hs : s ∈ link.segments id) : Path.IsLiteral s.toList ∧ s ≠ "" := by
  have hself : Path.IsLiteral id.toList ∧ id ≠ "" := ⟨hid.pathLiteral, hid.nonempty⟩
  cases link with
  | watch host front back =>
    rw [List.mem_singleton.mp hs]
    decide
  | page host name pieces =>
    rcases List.mem_pair.mp hs with rfl | rfl
    · have hpages : ∀ page ∈ videoPages, Path.IsLiteral page.toList ∧ page ≠ "" := by decide
      exact hpages s h.2.2.1
    · exact hself
  | short pieces =>
    rw [List.mem_singleton.mp hs]
    exact hself

theorem isPiece_assign (hid : IsToken id) : IsPiece ("v=" ++ id) := by
  have hname : IsPiece "v=" := by decide
  intro c hc
  rw [String.toList_append] at hc
  rcases List.mem_append.mp hc with hc | hc
  · exact hname c hc
  · exact isTokenChar_visible (hid.plain c hc)

theorem isPiece_of_mem_pieces (hid : IsToken id) (h : link.IsWellFormed) {piece : String}
    (hp : piece ∈ link.pieces id) : IsPiece piece := by
  cases link with
  | watch host front back =>
    rcases List.mem_append.mp hp with hp | hp
    · exact (h.2.2 piece (List.mem_append_left back hp)).1
    rcases List.mem_cons.mp hp with rfl | hp
    · exact isPiece_assign hid
    · exact (h.2.2 piece (List.mem_append_right front hp)).1
  | page host name pieces => exact (h.2.2.2 piece hp).1
  | short pieces => exact h piece hp

theorem text_segments (id : String) (link : VideoLink) :
    '/' :: ['/'].intercalate ((link.segments id).map String.toList) =
      (Path.rooted ((link.segments id).map String.toList)).text := by
  have hne : (link.segments id).map String.toList ≠ [] := by simpa using link.segments_ne_nil id
  exact (Path.text_rooted_eq hne).symm

theorem forall_isLiteral (hid : IsToken id) (h : link.IsWellFormed) :
    ∀ s ∈ (link.segments id).map String.toList, Path.IsLiteral s := by
  intro s hs
  obtain ⟨segment, hsegment, rfl⟩ := List.mem_map.mp hs
  exact (isLiteral_of_mem_segments hid h hsegment).1

theorem isVisible_of_mem_page (hid : IsToken id) (h : link.IsWellFormed) {c : Char}
    (hc : c ∈ ['/'].intercalate ((link.segments id).map String.toList)) :
    isVisible c = true ∧ c ≠ '#' ∧ c ≠ '?' := by
  refine isVisible_of_mem_path (forall_isLiteral hid h) ?_
  rw [← text_segments]
  exact List.mem_cons_of_mem '/' hc

theorem isVisible_of_mem_query (hid : IsToken id) (h : link.IsWellFormed) {c : Char}
    (hc : c ∈ partText '?' (link.query? id)) : isVisible c = true ∧ c ≠ '#' := by
  rcases mem_partText hc with rfl | ⟨query, hquery, hc⟩
  · decide
  unfold query? at hquery
  split at hquery
  · cases hquery
  rw [← Option.some.inj hquery] at hc
  rcases mem_intercalate hc with rfl | ⟨part, hpart, hc⟩
  · decide
  · obtain ⟨piece, hpiece, rfl⟩ := List.mem_map.mp hpart
    obtain ⟨hvisible, hsharp, _⟩ := isPiece_of_mem_pieces hid h hpiece c hc
    exact ⟨hvisible, hsharp⟩

theorem isVisible_of_mem_tail (hid : IsToken id) (h : link.IsWellFormed) {c : Char}
    (hc : c ∈ ['/'].intercalate ((link.segments id).map String.toList) ++
      partText '?' (link.query? id)) : isVisible c = true ∧ c ≠ '#' := by
  rcases List.mem_append.mp hc with hc | hc
  · obtain ⟨hvisible, hsharp, _⟩ := isVisible_of_mem_page hid h hc
    exact ⟨hvisible, hsharp⟩
  · exact isVisible_of_mem_query hid h hc

theorem toList_text (id : String) (link : VideoLink) : (link.text id).toList =
    "https://".toList ++ (link.host.toList ++ '/' ::
      (['/'].intercalate ((link.segments id).map String.toList) ++ partText '?' (link.query? id))) := by
  unfold text query?
  split <;> simp [partText]

theorem parse_text (h : link.IsWellFormed) : parse? (link.text id) = some (link.url id) := by
  rw [parse?, toList_text]
  exact ofChars_site (isSite_of_mem_hosts (host_mem h)) _

theorem segments_url (hid : IsToken id) (h : link.IsWellFormed) :
    (link.url id).segments = link.segments id := by
  have hpath : (link.url id).path = .rooted ((link.segments id).map String.toList) := by
    rw [url, path_atSite_page (fun c => isVisible_of_mem_tail hid h)
      fun hmem => (isVisible_of_mem_page hid h hmem).2.2 rfl, text_segments]
    obtain ⟨first, others, hcons⟩ := List.exists_cons_of_ne_nil
      (by simpa using link.segments_ne_nil id : (link.segments id).map String.toList ≠ [])
    have hall := forall_isLiteral hid h
    rw [hcons] at hall ⊢
    exact Path.ofSpecialText_text hall
  rw [segments_of_path hpath, List.filter_eq_self]
  exact fun s hs => by simpa using (isLiteral_of_mem_segments hid h hs).2

theorem param_url (hid : IsToken id) (h : link.IsWellFormed) (key : String) :
    (link.url id).param? key = (((link.pieces id).map String.toList).find? fun part =>
        Form.pieceName part == key.toList && !(Form.pieceValue part).isEmpty).map
          fun part => String.ofList (Form.pieceValue part) := by
  rw [url, param_atSite_page (fun c => isVisible_of_mem_tail hid h)
    fun hmem => (isVisible_of_mem_page hid h hmem).2.2 rfl, query?]
  split
  · rename_i hnil
    simp [hnil]
  · have hamp : ∀ part ∈ (link.pieces id).map String.toList, '&' ∉ part := by
      rintro _ hpart hmem
      obtain ⟨piece, hpiece, rfl⟩ := List.mem_map.mp hpart
      exact (isPiece_of_mem_pieces hid h hpiece _ hmem).2.2 rfl
    rw [Option.bind_some, Form.value_intercalate hamp, Option.map_map]
    rfl

theorem find_eq_none_of_other {pieces : List String} (h : ∀ piece ∈ pieces, IsOther piece) :
    (pieces.map String.toList).find? (fun part =>
      Form.pieceName part == "v".toList && !(Form.pieceValue part).isEmpty) = none := by
  rw [List.find?_eq_none]
  intro part hpart
  obtain ⟨piece, hpiece, rfl⟩ := List.mem_map.mp hpart
  rw [Bool.and_eq_true, beq_iff_eq]
  exact fun hfound => (h piece hpiece).2 hfound.1

theorem param_watch (hid : IsToken id) {host : String} {front back : List String}
    (h : (watch host front back).IsWellFormed) :
    ((watch host front back).url id).param? "v" = some id := by
  obtain ⟨_, _, hdecode⟩ := Form.isLiteral_iff.mp hid.formLiteral
  have hassign : ("v=" ++ id).toList = "v".toList ++ '=' :: id.toList := String.toList_append
  have hname : Form.pieceName ("v=" ++ id).toList = "v".toList := by
    rw [hassign, Form.pieceName_assign (by decide)]
    decide
  have hvalue : Form.pieceValue ("v=" ++ id).toList = id.toList := by
    rw [hassign, Form.pieceValue_assign (by decide), hdecode]
  have hfront := find_eq_none_of_other fun piece hp => h.2.2 piece (List.mem_append_left back hp)
  have hfound : ("v".toList == "v".toList && !id.toList.isEmpty) = true := by
    simpa using hid.nonempty
  rw [param_url hid h, pieces, List.map_append, List.find?_append, hfront, Option.none_or,
    List.map_cons, List.find?_cons, hname, hvalue, hfound]
  simp only [Option.map_some, hvalue, String.ofList_toList]

theorem param_page (hid : IsToken id) {host name : String} {pieces : List String}
    (h : (page host name pieces).IsWellFormed) :
    ((page host name pieces).url id).param? "v" = none := by
  rw [param_url hid h, VideoLink.pieces, find_eq_none_of_other h.2.2.2]
  rfl

theorem videoId_url (hid : IsToken id) (h : link.IsWellFormed) :
    videoId? (link.url id) = some id := by
  have hsegments := segments_url hid h
  have hhost : (link.url id).host? = some link.host := by
    rw [url, host_atSite, String.ofList_toList]
  rw [videoId_eq, hhost]
  cases link with
  | watch host front back =>
    have hother : some host ≠ some "youtu.be" := fun heq => h.2.1 (Option.some.inj heq)
    rw [VideoLink.host, if_neg hother, param_watch hid h]
    rfl
  | page host name pieces =>
    have hother : some host ≠ some "youtu.be" := fun heq => h.2.1 (Option.some.inj heq)
    rw [VideoLink.host, if_neg hother, param_page hid h, Option.none_or, pageVideoId?, hsegments]
    exact if_pos (List.contains_iff_mem.mpr h.2.2.1)
  | short pieces =>
    rw [VideoLink.host, if_pos rfl, hsegments]
    rfl

theorem classify_text (hid : IsToken id) (h : link.IsWellFormed) :
    classify? (link.text id) = some (.youtubeVideo id) := by
  rw [classify_eq, parse_text h, Option.bind_some, recognize_eq_video_iff]
  refine ⟨⟨link.host, host_mem h, ?_⟩, videoId_url hid h⟩
  rw [url, host_atSite, String.ofList_toList]

end VideoLink

/-- Every form of a link to a video names that video, and so do the canonical URL and the player
that are derived from it. -/
theorem video_links_agree (hid : IsToken id) {link : VideoLink} (h : link.IsWellFormed) :
    classify? (link.text id) = some (.youtubeVideo id) ∧
      ∃ canonical embed, (Resource.youtubeVideo id).canonicalUrl? = some canonical ∧
        (Resource.youtubeVideo id).embedUrl? = some embed ∧
        classify? canonical = some (.youtubeVideo id) ∧
        classify? embed = some (.youtubeVideo id) := by
  refine ⟨link.classify_text hid h, _, _, rfl, rfl, ?_, ?_⟩
  · exact (classify_watch_iff hid.nonempty).mpr hid.formLiteral
  · exact (classify_embed_iff hid.nonempty).mpr hid.pathLiteral

theorem links_to_one_video_agree :
    classify? ((VideoLink.watch "m.youtube.com" ["list=x", "", "v%3D=1", "%76w"] ["t=5s", "'<"]).text
        "aB_9-") = some (.youtubeVideo "aB_9-") ∧
      classify? ((VideoLink.page "youtube-nocookie.com" "shorts" ["%56=1"]).text "aB_9-") =
        some (.youtubeVideo "aB_9-") ∧
      classify? ((VideoLink.short ["v=other", "t=5s"]).text "aB_9-") =
        some (.youtubeVideo "aB_9-") := by
  have hid : IsToken "aB_9-" := by decide
  refine ⟨(video_links_agree hid ?_).1, (video_links_agree hid ?_).1, (video_links_agree hid ?_).1⟩
  · exact ⟨by decide, by decide, by decide +kernel⟩
  · exact ⟨by decide, by decide, by decide, by decide +kernel⟩
  · exact (by decide +kernel : ∀ piece ∈ ["v=other", "t=5s"], IsPiece piece)

end Permalink.YouTube
