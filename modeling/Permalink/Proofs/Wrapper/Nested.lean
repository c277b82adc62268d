import Permalink.Proofs.Url.Serialize
import Permalink.Proofs.Wrapper.Hidden

set_option autoImplicit false

/-!
One round may take off several layers, in the order of the rules, but it never takes off anything
else: what is left of a link under layers is the link under fewer of them.
-/

namespace Permalink
open Text

/-- The ways to wrap a link: each ends in the parameter that holds the destination. -/
inductive Layer where
  | googleQuery | googleUrl | youtube | safelinks
deriving DecidableEq, Repr

namespace Layer

def address : Layer → String
  | googleQuery => "https://www.google.com/url?q="
  | googleUrl => "https://www.google.com/url?url="
  | youtube => "https://www.youtube.com/redirect?q="
  | safelinks => "https://nam02.safelinks.protection.outlook.com/?url="

/-- The link in a layer, written as forms are. -/
def wrap (layer : Layer) (link : String) : String :=
  layer.address ++ String.ofList (Url.Form.encodeText link.toList)

/-- The link in several layers, the first one outermost. -/
def wrapAll (layers : List Layer) (link : String) : String := layers.foldr wrap link

def rule : Layer → Wrapper
  | googleQuery | googleUrl => .google
  | youtube => .youtube
  | safelinks => .safelinks

def host : Layer → List Char
  | googleQuery | googleUrl => "www.google.com".toList
  | youtube => "www.youtube.com".toList
  | safelinks => "nam02.safelinks.protection.outlook.com".toList

def page : Layer → List Char
  | googleQuery | googleUrl => "url".toList
  | youtube => "redirect".toList
  | safelinks => []

def param : Layer → List Char
  | googleQuery | youtube => ['q']
  | googleUrl | safelinks => "url".toList

variable (layer : Layer) {link : String}

def url (layer : Layer) (link : String) : Url where
  scheme := .https
  authority := some ⟨[], [], some (.domain layer.host), none⟩
  path := .rooted [layer.page]
  query := some (layer.param ++ '=' :: Url.Form.encodeText link.toList)
  fragment := none

theorem isNormal_url (link : String) : (layer.url link).IsNormal := by
  have hread : Url.Authority.ofText? .https true layer.host =
      some (⟨[], [], some (.domain layer.host), none⟩, []) := by
    cases layer <;> decide
  have hpage : Url.Path.IsLiteral layer.page := by cases layer <;> decide
  have hparam : (layer.param ++ ['=']).all fun c =>
      c.toNat < 128 && !Url.Percent.specialQuerySet c := by cases layer <;> decide
  refine ⟨.inr rfl, ⟨_, rfl, Url.Authority.isWritten_of_ofText rfl hread⟩,
    ⟨_, _, rfl, by simpa using hpage⟩, ?_, by simp [url]⟩
  rintro _ ⟨⟩ c hc
  rw [List.append_cons, List.mem_append] at hc
  rcases hc with hc | hc
  · simpa using List.all_eq_true.mp hparam c hc
  · obtain ⟨hascii, hset, _⟩ := Url.Form.kept_of_mem_encodeText hc
    exact ⟨hascii, hset⟩

theorem text_url (link : String) : (layer.url link).text = layer.wrap link := by
  have haddress : layer.address.toList = "https://".toList ++ layer.host ++ '/' :: layer.page ++
      '?' :: layer.param ++ ['='] := by
    cases layer <;> decide
  rw [← String.toList_inj, wrap, String.toList_append, haddress, Url.text,
    String.toList_ofList, Url.chars_eq rfl]
  simp [url, Url.Authority.text, Url.Authority.userinfo, Url.Path.text, Url.Scheme.name, partText,
    Url.Host.text]

theorem covers_url {wrapper : Wrapper} (h : wrapper ∈ wrappers) (link : String) :
    wrapper.covers (layer.url link) = decide (wrapper = layer.rule) := by
  have hall : ∀ wrapper ∈ wrappers,
      (occursIn wrapper.hostPart.toList layer.host &&
        wrapper.path.all (· == String.ofList ('/' :: layer.page))) =
          decide (wrapper = layer.rule) := by
    cases layer <;> decide
  rw [← hall wrapper h]
  simp [Wrapper.covers, Url.host?, url, Url.Host.text, Url.pathText, Url.Path.text]

theorem param_url (hne : link ≠ "") (name : String) : (layer.url link).param? name =
    if name.toList = layer.param then some link else none := by
  have hname : '=' ∉ layer.param ∧ '&' ∉ layer.param ∧
      Url.Form.decodeText layer.param = layer.param := by
    cases layer <;> decide
  have hamp : '&' ∉ Url.Form.encodeText link.toList := fun hmem =>
    (Url.Form.kept_of_mem_encodeText hmem).2.2 rfl
  rw [Url.param?]
  simp only [url, Option.bind_some]
  rw [Url.Form.value_assign_of_not_mem hname.1 hname.2.1 hamp, hname.2.2,
    Url.Form.decodeText_encodeText]
  by_cases h : name.toList = layer.param
  · simp [h, hne]
  · simp [h, Ne.symm h]

/-- A layer comes off by its own rule and by no other, and leaves the link as it was. -/
theorem unwrap_wrap {wrapper : Wrapper} (h : wrapper ∈ wrappers) (hne : link ≠ "") :
    wrapper.unwrap? (layer.wrap link) = if wrapper = layer.rule then some link else none := by
  have hparams : layer.rule.params.findSome? (layer.url link).param? = some link := by
    simp only [funext (layer.param_url hne)]
    cases layer <;> simp [rule, Wrapper.google, Wrapper.youtube, Wrapper.safelinks, param]
  rw [← text_url, Wrapper.unwrap_text (layer.isNormal_url link), Wrapper.destination?,
    covers_url layer h]
  by_cases hw : wrapper = layer.rule
  · simp [hw, hparams]
  · simp [hw]

theorem wrap_ne_empty (link : String) : layer.wrap link ≠ "" := by
  have haddress : layer.address ≠ "" := by cases layer <;> decide
  simp [wrap, haddress]

variable {layers : List Layer}

theorem wrapAll_ne_empty (hne : link ≠ "") (layers : List Layer) : wrapAll layers link ≠ "" := by
  cases layers with
  | nil => exact hne
  | cons layer layers => exact wrap_ne_empty layer _

theorem trim_wrapAll (h : Settled wrappers link) (layers : List Layer) :
    trim (wrapAll layers link) = wrapAll layers link := by
  cases layers with
  | nil => exact h.trimmed
  | cons layer layers =>
    change trim (layer.wrap (wrapAll layers link)) = layer.wrap (wrapAll layers link)
    rw [← text_url]
    exact (layer.isNormal_url _).trim_text

/-- A rule takes off the outermost layer or nothing. -/
theorem exists_suffix_of_unwrap (hne : link ≠ "") (h : Settled wrappers link) {wrapper : Wrapper}
    (hw : wrapper ∈ wrappers) (layers : List Layer) : ∃ rest, rest <:+ layers ∧
      (wrapper.unwrap? (wrapAll layers link)).getD (wrapAll layers link) = wrapAll rest link := by
  cases layers with
  | nil => exact ⟨[], List.suffix_refl _, by rw [wrapAll, List.foldr_nil, h.bare wrapper hw]; rfl⟩
  | cons layer layers =>
    have hunwrap : wrapper.unwrap? (wrapAll (layer :: layers) link) =
        if wrapper = layer.rule then some (wrapAll layers link) else none :=
      layer.unwrap_wrap hw (wrapAll_ne_empty hne layers)
    rw [hunwrap]
    by_cases hrule : wrapper = layer.rule
    · exact ⟨layers, List.suffix_cons layer layers, by rw [if_pos hrule]; rfl⟩
    · exact ⟨layer :: layers, List.suffix_refl _, by rw [if_neg hrule]; rfl⟩

theorem exists_suffix_of_peel (hne : link ≠ "") (h : Settled wrappers link) {rules : List Wrapper}
    (hrules : ∀ rule ∈ rules, rule ∈ wrappers) (layers : List Layer) :
    ∃ rest, rest <:+ layers ∧ peel rules (wrapAll layers link) = wrapAll rest link := by
  induction rules generalizing layers with
  | nil => exact ⟨layers, List.suffix_refl _, rfl⟩
  | cons rule rules ih =>
    obtain ⟨left, hleft, hunwrap⟩ := exists_suffix_of_unwrap hne h (hrules rule (by simp)) layers
    obtain ⟨rest, hrest, hpeel⟩ := ih (fun other hmem => hrules other (by simp [hmem])) left
    refine ⟨rest, hrest.trans hleft, ?_⟩
    rw [peel_cons, hunwrap, hpeel]

theorem exists_suffix_of_unwrapRound (hne : link ≠ "") (h : Settled wrappers link)
    (layers : List Layer) : ∃ rest, rest <:+ layers ∧
      unwrapRound wrappers (wrapAll layers link) = wrapAll rest link := by
  obtain ⟨rest, hrest, hpeel⟩ := exists_suffix_of_peel hne h (fun _ hmem => hmem) layers
  refine ⟨rest, hrest, ?_⟩
  rw [unwrapRound_of_trim (trim_wrapAll h layers), hpeel, trim_wrapAll h]

theorem exists_suffix_of_settle (hne : link ≠ "") (h : Settled wrappers link) (fuel : Nat)
    (layers : List Layer) : ∃ rest, rest <:+ layers ∧
      settle wrappers fuel (wrapAll layers link) = wrapAll rest link := by
  induction fuel generalizing layers with
  | zero => exact ⟨layers, List.suffix_refl _, rfl⟩
  | succ fuel ih =>
    rw [settle]
    split
    · exact ⟨layers, List.suffix_refl _, rfl⟩
    · obtain ⟨left, hleft, hround⟩ := exists_suffix_of_unwrapRound hne h layers
      obtain ⟨rest, hrest, hsettle⟩ := ih left
      exact ⟨rest, hrest.trans hleft, by rw [hround, hsettle]⟩

theorem eq_nil_of_settled_wrapAll (hne : link ≠ "")
    (h : Settled wrappers (wrapAll layers link)) : layers = [] := by
  cases layers with
  | nil => rfl
  | cons layer layers =>
    have hmem : layer.rule ∈ wrappers := by cases layer <;> decide
    have hunwrap : layer.rule.unwrap? (wrapAll (layer :: layers) link) =
        if layer.rule = layer.rule then some (wrapAll layers link) else none :=
      layer.unwrap_wrap hmem (wrapAll_ne_empty hne layers)
    rw [if_pos rfl, h.bare layer.rule hmem] at hunwrap
    cases hunwrap

end Layer

/-- A link at rest comes out of any number of layers, in any order, just as it was put in. -/
theorem sanitize_wrapAll {link : String} (hne : link ≠ "") (h : sanitize link = link)
    (layers : List Layer) : sanitize (Layer.wrapAll layers link) = link := by
  have hlink : Settled wrappers link := sanitizeWith_eq_self_iff.mp h
  have hdone : Settled wrappers (sanitize (Layer.wrapAll layers link)) :=
    sanitizeWith_settled wrappers _
  obtain ⟨rest, _, hrest⟩ : ∃ rest, rest <:+ layers ∧
      sanitize (Layer.wrapAll layers link) = Layer.wrapAll rest link := by
    rw [sanitize, sanitizeWith, Layer.trim_wrapAll hlink]
    exact Layer.exists_suffix_of_settle hne hlink _ layers
  rw [hrest] at hdone ⊢
  rw [Layer.eq_nil_of_settled_wrapAll hne hdone]
  rfl

theorem sanitize_wrapAll_of_control_characters :
    "https://é.example/a\x00b%2B+c" ≠ "" ∧
      sanitize "https://é.example/a\x00b%2B+c" = "https://é.example/a\x00b%2B+c" ∧
      sanitize (Layer.wrapAll [.safelinks, .googleUrl, .youtube, .googleQuery, .youtube]
        "https://é.example/a\x00b%2B+c") = "https://é.example/a\x00b%2B+c" := by
  have hne : "https://é.example/a\x00b%2B+c" ≠ "" := by decide
  have h : sanitize "https://é.example/a\x00b%2B+c" = "https://é.example/a\x00b%2B+c" := by
    decide +kernel
  exact ⟨hne, h, sanitize_wrapAll hne h _⟩

end Permalink
