import Permalink.Text.Basic
import Permalink.Url.Authority
import Permalink.Url.Percent

set_option autoImplicit false

namespace Permalink.Url

inductive Path where
  | rooted (segments : List (List Char))
  | verbatim (text : List Char)
deriving DecidableEq, Repr

namespace Path

def text : Path → List Char
  | rooted segments => segments.flatMap ('/' :: ·)
  | verbatim text => text

def dots : List (List Char) := [['.'], ['%', '2', 'e'], ['%', '2', 'E']]

def isSingleDot (segment : List Char) : Bool := dots.contains segment

def isDoubleDot (segment : List Char) : Bool :=
  (dots.flatMap fun a => dots.map (a ++ ·)).contains segment

/-- A letter and a colon or bar, alone or before a backslash. -/
def looksLikeDrive : List Char → Bool
  | letter :: mark :: rest =>
    letter.isAlpha && (mark == ':' || mark == '|') && rest.head?.all (· == '\\')
  | _ => false

/-- Removes the last segment of a path kept in reverse, unless it names a drive. -/
def pop : List (List Char) → List (List Char)
  | [] => []
  | top :: below => if looksLikeDrive top then top :: below else below

def step (push : List (List Char) → List Char → List (List Char))
    (reversed : List (List Char)) (segment : List Char) : List (List Char) :=
  if isDoubleDot segment then pop reversed
  else if isSingleDot segment then reversed
  else push reversed segment

/-- Resolves dot segments. One at the end leaves an empty last segment. -/
def resolveWith (push : List (List Char) → List Char → List (List Char))
    (segments : List (List Char)) : List (List Char) :=
  let reversed := segments.foldl (step push) []
  let dotted := segments.getLast?.any fun last => isSingleDot last || isDoubleDot last
  (if dotted then [] :: reversed else reversed).reverse

def resolve (segments : List (List Char)) : List (List Char) :=
  resolveWith (fun reversed segment => segment :: reversed) segments

/-- The segments of a text that begins with a separator; the empty text has `ofEmpty`. -/
def split (separator : Char → Bool) (ofEmpty : List (List Char)) :
    List Char → List (List Char)
  | [] => ofEmpty
  | _ :: rest => (rest.splitOnP separator).map (Percent.encode Percent.pathSet)

def isSlash (c : Char) : Bool := c == '/'

def isAnySlash (c : Char) : Bool := c == '/' || c == '\\'

def ofSpecialText (cs : List Char) : Path :=
  rooted (resolve (split isAnySlash [[]] cs))

def ofOtherText (cs : List Char) : Path :=
  rooted (resolve (split isSlash [] cs))

def isDrive (segment : List Char) : Bool :=
  segment.length == 2 && looksLikeDrive segment

/-- The first segment of a file path may be a drive, whose mark is written as a colon. -/
def pushFile (reversed : List (List Char)) (segment : List Char) : List (List Char) :=
  if reversed.isEmpty && isDrive segment then [segment.take 1 ++ [':']] else segment :: reversed

/-- The segments of a file path; empty ones in front are dropped. -/
def fileSegments (cs : List Char) : List (List Char) :=
  resolveWith pushFile (split isAnySlash [[]] cs)

def trimFront (segments : List (List Char)) : List (List Char) :=
  match segments.dropWhile (·.isEmpty) with
  | [] => [[]]
  | trimmed => trimmed

end Path
end Permalink.Url

namespace Permalink

structure Url where
  scheme : Url.Scheme
  authority : Option Url.Authority
  path : Url.Path
  query : Option (List Char)
  fragment : Option (List Char)
deriving DecidableEq, Repr

namespace Url

/-- The characters of a path after no authority, which must not look like one. -/
def guardedPath (path : Path) : List Char :=
  match path.text with
  | '/' :: '/' :: rest => '/' :: '.' :: '/' :: '/' :: rest
  | text => text

def chars (url : Url) : List Char :=
  url.scheme.name ++ [':'] ++
    (match url.authority with
      | some authority => ['/', '/'] ++ authority.text ++ url.path.text
      | none => guardedPath url.path) ++
    ((url.query.map ('?' :: ·)).getD []) ++
    ((url.fragment.map ('#' :: ·)).getD [])

def text (url : Url) : String := String.ofList url.chars

def host? (url : Url) : Option String :=
  (url.authority.bind (·.host)).map fun host => String.ofList host.text

def pathText (url : Url) : String := String.ofList url.path.text

def segments (url : Url) : List String :=
  match url.path with
  | .rooted segments => (segments.filter (!·.isEmpty)).map String.ofList
  | .verbatim _ => []

/-- The first value of a query parameter that is not empty, decoded. -/
def param? (url : Url) (name : String) : Option String :=
  (url.query.bind (Form.value? name.toList)).map String.ofList

end Url
end Permalink

namespace Permalink.Url
open Text

/-- Drops control characters and spaces at both ends, and tabs and line ends everywhere. -/
def cleanse (cs : List Char) : List Char :=
  let isEdge : Char → Bool := fun c => c.toNat ≤ 0x20
  (dropEndWhile isEdge (cs.dropWhile isEdge)).filter fun c => c != '\t' && c != '\n' && c != '\r'

/-- A special URL has an authority after any number of slashes. -/
def specialLocation? (scheme : Scheme) (cs : List Char) : Option (Authority × Path) :=
  let cs := cs.dropWhile Path.isAnySlash
  let tail := cs.dropWhile (!Path.isAnySlash ·)
  (Authority.ofText? scheme true (cs.takeWhile (!Path.isAnySlash ·))).map fun (authority, _) =>
    (authority, Path.ofSpecialText tail)

/-- The host of a file; `localhost` is none. -/
def fileHost? (cs : List Char) : Option (Option Host) :=
  if cs.isEmpty then some none
  else (Host.ofSpecialText? cs).map fun host =>
    if host = .domain "localhost".toList then none else some host

/-- A file path that begins with a drive has no host. -/
def fileLocation (host : Option Host) (cs : List Char) : Authority × Path :=
  let segments := Path.fileSegments cs
  let host := if segments.head?.any Path.isDrive then none else host
  (⟨[], [], host, none⟩, .rooted (Path.trimFront segments))

def fileLocation? (cs : List Char) : Option (Authority × Path) :=
  match cs with
  | a :: b :: rest =>
    if Path.isAnySlash a && Path.isAnySlash b then
      let host := rest.takeWhile (!Path.isAnySlash ·)
      if Path.isDrive host then some (fileLocation none ('/' :: rest))
      else (fileHost? host).map (fileLocation · (rest.dropWhile (!Path.isAnySlash ·)))
    else some (fileLocation none (if Path.isAnySlash a then cs else '/' :: cs))
  | [a] => some (fileLocation none (if Path.isAnySlash a then cs else '/' :: cs))
  | [] => some (fileLocation none [])

/-- Any other URL has an authority after two slashes. What is left after its port belongs to the
path. -/
def otherLocation? (scheme : Scheme) (followed : Bool) (cs : List Char) :
    Option (Option Authority × Path) :=
  match cs with
  | '/' :: '/' :: rest =>
    let tail := rest.dropWhile (!Path.isSlash ·)
    (Authority.ofText? scheme (followed || !tail.isEmpty)
        (rest.takeWhile (!Path.isSlash ·))).map fun (authority, left) =>
      (some authority, Path.ofOtherText (if left.isEmpty then tail else '/' :: left ++ tail))
  | '/' :: _ => some (none, Path.ofOtherText cs)
  | _ => some (none, .verbatim (Percent.encode Percent.controls cs))

def location? (scheme : Scheme) (followed : Bool) (cs : List Char) :
    Option (Option Authority × Path) :=
  match scheme with
  | .file => (fileLocation? cs).map fun (authority, path) => (some authority, path)
  | .other _ => otherLocation? scheme followed cs
  | _ => (specialLocation? scheme cs).map fun (authority, path) => (some authority, path)

def querySetOf (scheme : Scheme) : Percent.EncodeSet :=
  if scheme.isSpecial then Percent.specialQuerySet else Percent.querySet

def ofChars? (cs : List Char) : Option Url :=
  (Scheme.read? (cleanse cs)).bind fun (scheme, rest) =>
    let body := before '#' rest
    let fragment := after? '#' rest
    let query := after? '?' body
    (location? scheme (query.isSome || fragment.isSome) (before '?' body)).map
      fun (authority, path) =>
        { scheme, authority, path
          query := query.map (Percent.encode (querySetOf scheme))
          fragment := fragment.map (Percent.encode Percent.fragmentSet) }

def parse? (s : String) : Option Url := ofChars? s.toList

example : (parse? " HTTP://Example.com:80/a/./b/../c?q#f").map text =
    some "http://example.com/a/c?q#f" := by decide +kernel
example : parse? "//example.com/" = none := by decide +kernel

end Permalink.Url
