import Permalink.Recognizer
import Permalink.Sanitize
import Permalink.Settings
import Permalink.Text.Basic

set_option autoImplicit false

namespace Permalink

structure DerivedUrls where
  canonical : Option String
  alternates : List String
  feeds : List String
  embed : Option String
deriving DecidableEq, Repr

def Resource.derivedUrls (resource : Resource) : DerivedUrls :=
  ⟨resource.canonicalUrl?, resource.alternateUrls, resource.feedUrls, resource.embedUrl?⟩

structure Report where
  input : String
  url : String
  handled : Bool
  service : Option Service
  kind : Option Kind
  identifiers : List (String × String)
  derived : Option DerivedUrls
  channelUrl : Option String
deriving DecidableEq, Repr

def Settings.prepare (settings : Settings) (input : String) : String :=
  let url := if settings.sanitize then Permalink.sanitize input else input
  if settings.stripTracking then Permalink.stripTracking url else url

namespace Report

def ofResource (input url : String) (resource : Option Resource) : Report where
  input := input
  url := url
  handled := resource.isSome
  service := resource.map (·.service)
  kind := resource.map (·.kind)
  identifiers := (resource.map (·.identifiers)).getD []
  derived := resource.map (·.derivedUrls)
  channelUrl := resource.bind (·.channelUrl?)

def ofInput (settings : Settings) (input : String) : Report :=
  ofResource input (settings.prepare input) (classify? (settings.prepare input))

end Report

inductive Json where
  | null
  | bool (value : Bool)
  | string (value : List Char)
  | array (items : List Json)
  | object (fields : List (List Char × Json))

namespace Json

def escape (c : Char) : List Char :=
  if c = '\x22' then ['\\', '\x22']
  else if c = '\\' then ['\\', '\\']
  else if c = '\x08' then ['\\', 'b']
  else if c = '\x0c' then ['\\', 'f']
  else if c = '\n' then ['\\', 'n']
  else if c = '\r' then ['\\', 'r']
  else if c = '\t' then ['\\', 't']
  else if c.toNat < 0x20 then
    ['\\', 'u', '0', '0', Text.lowerHexDigit (c.toNat / 16), Text.lowerHexDigit (c.toNat % 16)]
  else [c]

def quote (cs : List Char) : List Char :=
  '\x22' :: cs.flatMap escape ++ ['\x22']

mutual

def chars : Json → List Char
  | null => ['n', 'u', 'l', 'l']
  | bool true => ['t', 'r', 'u', 'e']
  | bool false => ['f', 'a', 'l', 's', 'e']
  | string value => quote value
  | array [] => ['[', ']']
  | array (item :: items) => '[' :: chars item ++ itemsTail items
  | object [] => ['\x7b', '\x7d']
  | object ((name, value) :: fields) => '\x7b' :: quote name ++ ':' :: chars value ++ fieldsTail fields

def itemsTail : List Json → List Char
  | [] => [']']
  | item :: items => ',' :: chars item ++ itemsTail items

def fieldsTail : List (List Char × Json) → List Char
  | [] => ['\x7d']
  | (name, value) :: fields => ',' :: quote name ++ ':' :: chars value ++ fieldsTail fields

end

def ofString (s : String) : Json := string s.toList

def ofOption (s : Option String) : Json := (s.map ofString).getD null

def ofStrings (ss : List String) : Json := array (ss.map ofString)

def text (value : Json) : String := String.ofList value.chars

end Json

namespace Report

def items (report : Report) : List (String × String) :=
  (if report.url = report.input then [] else [("url", report.url)]) ++
    (report.service.map fun service => ("service", service.name)).toList ++
    (report.kind.map fun kind => ("kind", kind.name)).toList ++
    report.identifiers ++
    (match report.derived with
      | none => []
      | some derived =>
        (derived.canonical.map (("canonical", ·))).toList ++
          derived.alternates.map (("alternate", ·)) ++
          derived.feeds.map (("feed", ·)) ++
          (derived.embed.map (("embed", ·))).toList) ++
    (report.channelUrl.map (("channel", ·))).toList

def itemLine (item : String × String) : String :=
  "\n  " ++ item.1 ++ ": " ++ item.2

def text (report : Report) : String :=
  if report.handled then report.input ++ String.join (report.items.map itemLine)
  else
    report.input ++ " -> unhandled" ++
      (if report.url = report.input then "" else " (sanitized: " ++ report.url ++ ")")

def field (name : String) (value : Json) : List Char × Json := (name.toList, value)

def fields (report : Report) : List (List Char × Json) :=
  [field "input" (.ofString report.input), field "url" (.ofString report.url),
    field "handled" (.bool report.handled)] ++
    (report.service.map fun service => field "service" (.ofString service.name)).toList ++
    (report.kind.map fun kind => field "kind" (.ofString kind.name)).toList ++
    (if report.identifiers.isEmpty then []
      else [field "identifiers"
        (.object (report.identifiers.map fun (role, id) => field role (.ofString id)))]) ++
    (match report.derived with
      | none => []
      | some derived =>
        [field "canonical_url" (.ofOption derived.canonical),
          field "alternate_urls" (.ofStrings derived.alternates),
          field "feed_urls" (.ofStrings derived.feeds),
          field "embed_url" (.ofOption derived.embed)]) ++
    (report.channelUrl.map fun url => field "channel_url" (.ofString url)).toList

def json (report : Report) : String := (Json.object report.fields).text

def render (format : Format) (report : Report) : String :=
  match format with
  | .text => report.text
  | .json => report.json

end Report
end Permalink
