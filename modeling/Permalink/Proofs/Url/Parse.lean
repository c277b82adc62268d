import Permalink.Proofs.Text.Size
import Permalink.Proofs.Url.Query
import Permalink.Url.Parse

set_option autoImplicit false

namespace Permalink.Url
open Text

def isEdge (c : Char) : Bool := c.toNat ≤ 0x20

def isKept (c : Char) : Bool := c != '\t' && c != '\n' && c != '\r'

theorem cleanse_eq (cs : List Char) :
    cleanse cs = (dropEndWhile isEdge (cs.dropWhile isEdge)).filter isKept := rfl

theorem cleanse_sublist (cs : List Char) : (cleanse cs).Sublist cs :=
  List.filter_sublist.trans
    ((dropEndWhile_isPrefix isEdge _).sublist.trans (List.dropWhile_sublist isEdge))

/-- What is left of a text at the end of a link. -/
def cleanseEnd (cs : List Char) : List Char := (dropEndWhile isEdge cs).filter isKept

theorem cleanseEnd_sublist (cs : List Char) : (cleanseEnd cs).Sublist cs :=
  List.filter_sublist.trans (dropEndWhile_isPrefix isEdge cs).sublist

/-- A text that is not cut when another one follows it. -/
structure IsFront (front : List Char) : Prop where
  first : front.dropWhile isEdge = front
  last : dropEndWhile isEdge front = front
  kept : front.filter isKept = front

instance (front : List Char) : Decidable (IsFront front) :=
  decidable_of_iff (front.dropWhile isEdge = front ∧ dropEndWhile isEdge front = front ∧
      front.filter isKept = front)
    ⟨fun h => ⟨h.1, h.2.1, h.2.2⟩, fun h => ⟨h.first, h.last, h.kept⟩⟩

theorem dropEndWhile_append {p : Char → Bool} {xs : List Char} (h : dropEndWhile p xs = xs)
    (ys : List Char) : dropEndWhile p (xs ++ ys) = xs ++ dropEndWhile p ys := by
  have hx : xs.reverse.dropWhile p = xs.reverse := by
    rw [← List.reverse_eq_iff]
    exact h
  unfold dropEndWhile
  rw [List.reverse_append, List.dropWhile_append, hx]
  split
  · rename_i hy
    rw [List.isEmpty_iff.mp hy]
    simp
  · simp

theorem IsFront.cleanseEnd_append {front : List Char} (h : IsFront front) (back : List Char) :
    cleanseEnd (front ++ back) = front ++ cleanseEnd back := by
  unfold cleanseEnd
  rw [dropEndWhile_append h.last, List.filter_append, h.kept]

theorem IsFront.cleanse_append {front : List Char} (h : IsFront front) (hne : front ≠ [])
    (back : List Char) : cleanse (front ++ back) = front ++ cleanseEnd back := by
  have hfirst : (front ++ back).dropWhile isEdge = front ++ back := by
    rw [List.dropWhile_append, h.first, if_neg (by simpa using hne)]
  rw [cleanse_eq, hfirst]
  exact h.cleanseEnd_append back

theorem cleanseEnd_append {cs : List Char} (h : ∀ c ∈ cs.getLast?, isEdge c = false)
    (back : List Char) : cleanseEnd (cs ++ back) = cleanseEnd cs ++ cleanseEnd back := by
  have hlast : dropEndWhile isEdge cs = cs := by
    refine List.rdropWhile_eq_self_iff.mpr fun hne => ?_
    simpa using h _ (List.getLast?_eq_some_getLast hne)
  rw [cleanseEnd, dropEndWhile_append hlast, List.filter_append, cleanseEnd, hlast]
  rfl

theorem cleanseEnd_eq_self_iff {cs : List Char} :
    cleanseEnd cs = cs ↔ (∀ c ∈ cs.getLast?, isEdge c = false) ∧ ∀ c ∈ cs, isKept c = true := by
  have hlast : dropEndWhile isEdge cs = cs ↔ ∀ c ∈ cs.getLast?, isEdge c = false := by
    refine List.rdropWhile_eq_self_iff.trans ?_
    cases cs with
    | nil => simp
    | cons c cs => simp [List.getLast?_eq_some_getLast]
  rw [← hlast]
  constructor
  · intro h
    have hsub := dropEndWhile_isPrefix isEdge cs
    have hend : dropEndWhile isEdge cs = cs := by
      refine hsub.eq_of_length_le ?_
      have hle := congrArg List.length h ▸ List.length_filter_le isKept (dropEndWhile isEdge cs)
      exact hle
    refine ⟨hend, ?_⟩
    rw [cleanseEnd, hend] at h
    exact List.filter_eq_self.mp h
  · rintro ⟨hend, hkept⟩
    rw [cleanseEnd, hend]
    exact List.filter_eq_self.mpr hkept

theorem Scheme.read_suffix {cs rest : List Char} {scheme : Scheme}
    (h : Scheme.read? cs = some (scheme, rest)) : ':' :: rest <:+ cs := by
  unfold Scheme.read? at h
  split at h
  · rename_i hname hrest
    split at h
    · obtain ⟨_, rfl⟩ := Prod.mk.inj (Option.some.inj h)
      rw [← hrest]
      exact List.dropWhile_suffix _
    · cases h
  · cases h

theorem transparent_querySetOf (scheme : Scheme) : Form.Transparent (querySetOf scheme) := by
  cases scheme with
  | other name => exact Form.transparent_querySet
  | http | https | ws | wss | ftp | file => exact Form.transparent_specialQuerySet

theorem param_eq_of_query {url : Url} {query : Option (List Char)} {scheme : Scheme}
    (h : url.query = query.map (Percent.encode (querySetOf scheme))) (name : String) :
    url.param? name = (query.bind (Form.value? name.toList)).map String.ofList := by
  rw [param?, h]
  cases query with
  | none => rfl
  | some query => exact congrArg _ ((transparent_querySetOf scheme).value_encode name.toList query)

theorem param_of_parse {link : String} {url : Url} (h : parse? link = some url) :
    ∃ query : Option (List Char), (∀ q ∈ query, size q < size link.toList) ∧
      ∀ name, url.param? name = (query.bind (Form.value? name.toList)).map String.ofList := by
  obtain ⟨⟨scheme, rest⟩, hread, h⟩ := Option.bind_eq_some_iff.mp h
  obtain ⟨⟨authority, path⟩, _, rfl⟩ := Option.map_eq_some_iff.mp h
  refine ⟨after? '?' (before '#' rest), fun q hq => ?_, fun name => param_eq_of_query rfl name⟩
  have hquery := size_le_of_sublist (after_suffix hq).sublist
  have hbefore := size_le_of_sublist (before_sublist '#' rest)
  have hrest := size_le_of_sublist ((Scheme.read_suffix hread).sublist.trans (cleanse_sublist _))
  have hcolon := (':').utf8Size_pos
  have hmark := ('?').utf8Size_pos
  rw [size_cons] at hquery hrest
  omega

theorem utf8ByteSize_param_lt {link name v : String} {url : Url} (h : parse? link = some url)
    (hv : url.param? name = some v) : v.utf8ByteSize < link.utf8ByteSize := by
  obtain ⟨query, hsize, hparam⟩ := param_of_parse h
  rw [hparam name] at hv
  obtain ⟨value, hvalue, rfl⟩ := Option.map_eq_some_iff.mp hv
  obtain ⟨q, hq, hvalue⟩ := Option.bind_eq_some_iff.mp hvalue
  have hlt := hsize q hq
  have hle := Form.size_value_le hvalue
  rw [size_toList] at hlt
  rw [utf8ByteSize_ofList]
  omega

theorem ne_empty_of_param {url : Url} {name v : String} (h : url.param? name = some v) :
    v ≠ "" := by
  obtain ⟨value, hvalue, rfl⟩ := Option.map_eq_some_iff.mp h
  obtain ⟨query, _, hvalue⟩ := Option.bind_eq_some_iff.mp hvalue
  intro he
  exact Form.value_ne_nil hvalue (String.ofList_eq_empty_iff.mp he)

theorem segments_of_path {url : Url} {segments : List String}
    (h : url.path = .rooted (segments.map String.toList)) :
    url.segments = segments.filter (· ≠ "") := by
  have hempty : (fun s : List Char => !s.isEmpty) ∘ String.toList = fun s => decide (s ≠ "") := by
    funext s
    rw [Bool.eq_iff_iff]
    simp
  rw [Url.segments, h]
  change ((segments.map String.toList).filter (!·.isEmpty)).map String.ofList = _
  rw [List.filter_map, hempty, List.map_map]
  simp [Function.comp_def]

theorem ne_empty_of_mem_segments {url : Url} {segment : String} (h : segment ∈ url.segments) :
    segment ≠ "" := by
  unfold segments at h
  split at h
  · obtain ⟨s, hs, rfl⟩ := List.mem_map.mp h
    have hne := (List.mem_filter.mp hs).2
    intro he
    simp [String.ofList_eq_empty_iff.mp he] at hne
  · cases h

end Permalink.Url
