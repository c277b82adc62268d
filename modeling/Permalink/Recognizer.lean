import Permalink.Resource
import Permalink.Url.Parse

set_option autoImplicit false

namespace Permalink

/-- One convention of one service: on which hosts it holds, and how a URL there names a resource. -/
structure Recognizer where
  id : String
  /-- Among recognizers, the higher priority is asked first. -/
  priority : Int := 0
  acceptsHost : String → Bool
  read? : Url → Option Resource
  /-- A URL without a host is on no service, unless a recognizer has it otherwise. -/
  covers : Url → Bool := fun url => url.host?.any acceptsHost
  recognize? : Url → Option Resource := fun url => if covers url then read? url else none

structure Registry where
  recognizers : List Recognizer

namespace Registry

def empty : Registry := ⟨[]⟩

/-- Places a recognizer behind all those of at least its priority. -/
def insert (new : Recognizer) : List Recognizer → List Recognizer
  | [] => [new]
  | old :: rest =>
    if old.priority < new.priority then new :: old :: rest else old :: insert new rest

def register (registry : Registry) (new : Recognizer) : Registry :=
  ⟨insert new registry.recognizers⟩

def ofList (recognizers : List Recognizer) : Registry :=
  recognizers.foldl register empty

def findIn? (registry : Registry) (url : Url) : Option (Recognizer × Resource) :=
  registry.recognizers.findSome? fun recognizer =>
    (recognizer.recognize? url).map (recognizer, ·)

def find? (registry : Registry) (link : String) : Option (Recognizer × Resource) :=
  (Url.parse? link).bind registry.findIn?

def classify? (registry : Registry) (link : String) : Option Resource :=
  (registry.find? link).map (·.2)

end Registry
end Permalink

namespace Permalink.YouTube

def hosts : List String :=
  ["youtube.com", "www.youtube.com", "m.youtube.com", "music.youtube.com",
    "youtube-nocookie.com", "www.youtube-nocookie.com", "youtu.be"]

def videoPages : List String := ["embed", "shorts", "v"]

/-- A short link has the identifier as its first segment and nowhere else. -/
def videoId? (url : Url) : Option String :=
  if url.host? = some "youtu.be" then url.segments.head?
  else (url.param? "v").or
    (match url.segments with
      | page :: id :: _ => if videoPages.contains page then some id else none
      | _ => none)

def feedPath : String := "/feeds/videos.xml"

def feedChannelId? (url : Url) : Option String :=
  if url.host? = some "www.youtube.com" ∧ url.pathText = feedPath then url.param? "channel_id"
  else none

def channelId? (url : Url) : Option String :=
  match url.segments with
  | page :: id :: _ => if page = "channel" then some id else feedChannelId? url
  | _ => feedChannelId? url

def videos : Recognizer where
  id := "youtube_video"
  priority := 100
  acceptsHost := hosts.contains
  read? url := (videoId? url).map .youtubeVideo

def channels : Recognizer where
  id := "youtube_channel"
  priority := 90
  acceptsHost := hosts.contains
  read? url := (channelId? url).map .youtubeChannel

end Permalink.YouTube

namespace Permalink.Odysee

def hosts : List String := ["odysee.com", "www.odysee.com"]

def isChannel (segment : String) : Bool :=
  match segment.toList with
  | '@' :: _ :: _ => true
  | _ => false

def isClaim (segment : String) : Bool :=
  segment.toList.contains ':' && segment.toList.head? != some '@'

def videoId? (url : Url) : Option String :=
  url.segments.getLast?.filter isClaim

/-- A channel without a claim id is not enough to address a video. -/
def videoChannelId? (url : Url) : Option String :=
  url.segments.find? fun segment => isChannel segment && segment.toList.contains ':'

def channelId? (url : Url) : Option String :=
  url.segments.find? isChannel

def videos : Recognizer where
  id := "odysee_video"
  priority := 80
  acceptsHost := hosts.contains
  read? url := (videoId? url).map fun id => .odyseeVideo id (videoChannelId? url)

def channels : Recognizer where
  id := "odysee_channel"
  priority := 70
  acceptsHost := hosts.contains
  read? url := (channelId? url).map .odyseeChannel

end Permalink.Odysee

namespace Permalink.Reddit

def hosts : List String :=
  ["reddit.com", "www.reddit.com", "old.reddit.com", "new.reddit.com", "m.reddit.com",
    "np.reddit.com"]

def subreddit? (url : Url) : Option String :=
  match url.segments with
  | page :: name :: _ => if page = "r" then some name else none
  | _ => none

def subreddits : Recognizer where
  id := "reddit"
  priority := 60
  acceptsHost := hosts.contains
  read? url := (subreddit? url).map .subreddit

end Permalink.Reddit

namespace Permalink

def builtinRecognizers : List Recognizer :=
  [YouTube.videos, YouTube.channels, Odysee.videos, Odysee.channels, Reddit.subreddits]

def Registry.builtin : Registry := Registry.ofList builtinRecognizers

def classify? (link : String) : Option Resource :=
  Registry.builtin.classify? link

def channelUrlOf? (link : String) : Option String :=
  (classify? link).bind Resource.channelUrl?

example : Registry.builtin.recognizers.map (·.id) =
    ["youtube_video", "youtube_channel", "odysee_video", "odysee_channel", "reddit"] := by decide
example : classify? "https://odysee.com/@c:1/v:2?t=3" =
    some (.odyseeVideo "v:2" (some "@c:1")) := by decide +kernel

end Permalink
