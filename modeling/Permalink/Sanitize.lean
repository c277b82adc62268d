import Permalink.Url.Parse

set_option autoImplicit false

namespace Permalink
open Text

structure Wrapper where
  /-- Occurs in the host, and already in the text, of each wrapped link. -/
  hostPart : String
  path : Option String
  params : List String
deriving DecidableEq, Repr

namespace Wrapper

def google : Wrapper := ⟨"google.", some "/url", ["q", "url"]⟩

def youtube : Wrapper := ⟨"youtube.com", some "/redirect", ["q"]⟩

def safelinks : Wrapper := ⟨"safelinks.protection.outlook.com", none, ["url"]⟩

/-- Is this the address of a wrapped link, whether or not it holds a destination? -/
def covers (wrapper : Wrapper) (url : Url) : Bool :=
  url.host?.any (occursIn wrapper.hostPart.toList ·.toList) &&
    wrapper.path.all (· == url.pathText)

def destination? (wrapper : Wrapper) (url : Url) : Option String :=
  if wrapper.covers url then wrapper.params.findSome? url.param? else none

/-- The destination of a link. The host has to be spelled out in the link, in lower case. -/
def unwrap? (wrapper : Wrapper) (link : String) : Option String :=
  if occursIn wrapper.hostPart.toList link.toList then
    (Url.parse? link).bind wrapper.destination?
  else none

end Wrapper

def wrappers : List Wrapper := [.google, .youtube, .safelinks]

/-- Tries each wrapper once, on what the ones before it have left. -/
def unwrapRound (rules : List Wrapper) (link : String) : String :=
  trim (rules.foldl (fun link rule => (rule.unwrap? link).getD link) (trimEnd link))

def settle (rules : List Wrapper) : Nat → String → String
  | 0, link => link
  | fuel + 1, link =>
    let next := unwrapRound rules link
    if next = link then link else settle rules fuel next

/-- A destination is shorter than the link that holds it, so the length of the link bounds the
number of rounds. -/
def sanitizeWith (rules : List Wrapper) (raw : String) : String :=
  settle rules (raw.utf8ByteSize + 1) (trim raw)

def sanitize (raw : String) : String := sanitizeWith wrappers raw

example : sanitize " https://www.google.com/url?q=https%3A%2F%2Fyoutu.be%2Fabc " =
    "https://youtu.be/abc" := by decide +kernel

namespace Tracking

def names : List String :=
  ["fbclid", "gclid", "gclsrc", "dclid", "msclkid", "mc_cid", "mc_eid", "igshid", "si", "feature",
    "ref_src", "ref_url"]

def isTracking (name : List Char) : Bool :=
  let lower := name.map Char.toLower
  "utm_".toList.isPrefixOf lower || (names.map String.toList).contains lower

def keeps (piece : List Char) : Bool := !isTracking (Url.Form.pieceName piece)

/-- The query without its tracking pieces and its empty ones; `none` if no piece is left. -/
def keptQuery? (query : List Char) : Option (List Char) :=
  match (Url.Form.pieces query).filter keeps with
  | [] => none
  | kept => some (['&'].intercalate kept)

/-- Only `http` and `https` links are known to use their query for parameters. -/
def stripUrl? (url : Url) : Option Url :=
  if url.scheme = .http ∨ url.scheme = .https then
    url.query.bind fun query =>
      if (Url.Form.pieces query).all keeps then none
      else some { url with query := keptQuery? query }
  else none

end Tracking

def stripTracking (link : String) : String :=
  (((Url.parse? link).bind Tracking.stripUrl?).map (·.text)).getD link

example : stripTracking "https://e.com/a?utm_a=1&b=%20&SI=2#f" = "https://e.com/a?b=%20#f" := by
  decide +kernel

end Permalink
