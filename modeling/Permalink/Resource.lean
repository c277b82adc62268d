set_option autoImplicit false

namespace Permalink

inductive Service where
  | youtube | odysee | reddit
deriving DecidableEq, Repr

def Service.name : Service → String
  | youtube => "youtube"
  | odysee => "odysee"
  | reddit => "reddit"

def Service.origin : Service → String
  | youtube => "https://www.youtube.com"
  | odysee => "https://odysee.com"
  | reddit => "https://www.reddit.com"

/-- A subreddit counts as a channel. -/
inductive Kind where
  | video | channel
deriving DecidableEq, Repr

def Kind.name : Kind → String
  | video => "video"
  | channel => "channel"

inductive Resource where
  | youtubeVideo (id : String)
  | youtubeChannel (id : String)
  /-- The channel of an Odysee video may be unknown. -/
  | odyseeVideo (id : String) (channel : Option String)
  | odyseeChannel (id : String)
  | subreddit (name : String)
deriving DecidableEq, Repr

namespace Resource

def service : Resource → Service
  | youtubeVideo _ | youtubeChannel _ => .youtube
  | odyseeVideo _ _ | odyseeChannel _ => .odysee
  | subreddit _ => .reddit

def kind : Resource → Kind
  | youtubeVideo _ | odyseeVideo _ _ => .video
  | youtubeChannel _ | odyseeChannel _ | subreddit _ => .channel

def identifiers : Resource → List (String × String)
  | youtubeVideo id => [("videoId", id)]
  | youtubeChannel id | odyseeChannel id => [("channelId", id)]
  | odyseeVideo id channel =>
    (channel.map fun channel => ("channelId", channel)).toList ++ [("videoId", id)]
  | subreddit name => [("subreddit", name)]

/-- The preferred URL. An Odysee video has one only under its channel. -/
def canonicalUrl? : Resource → Option String
  | youtubeVideo id => some (Service.youtube.origin ++ "/watch?v=" ++ id)
  | youtubeChannel id => some (Service.youtube.origin ++ "/channel/" ++ id)
  | odyseeVideo id channel =>
    channel.map fun channel => Service.odysee.origin ++ "/" ++ channel ++ "/" ++ id
  | odyseeChannel id => some (Service.odysee.origin ++ "/" ++ id)
  | subreddit name => some (Service.reddit.origin ++ "/r/" ++ name ++ "/")

def alternateUrls (resource : Resource) : List String :=
  resource.canonicalUrl?.toList

def odyseeFeedUrl (channel : String) : String :=
  Service.odysee.origin ++ "/$/rss/" ++ channel

def feedUrls : Resource → List String
  | youtubeVideo _ => []
  | youtubeChannel id => [Service.youtube.origin ++ "/feeds/videos.xml?channel_id=" ++ id]
  | odyseeVideo _ channel => (channel.map odyseeFeedUrl).toList
  | odyseeChannel id => [odyseeFeedUrl id]
  | subreddit name => [Service.reddit.origin ++ "/r/" ++ name ++ "/.rss"]

def embedUrl? : Resource → Option String
  | youtubeVideo id => some (Service.youtube.origin ++ "/embed/" ++ id)
  | odyseeVideo id _ => some (Service.odysee.origin ++ "/$/embed/" ++ id)
  | youtubeChannel _ | odyseeChannel _ | subreddit _ => none

/-- The URL of the channel to which the resource belongs. A YouTube video does not tell its own. -/
def channelUrl? : Resource → Option String
  | youtubeVideo _ => none
  | odyseeVideo _ channel => channel.map fun channel => Service.odysee.origin ++ "/" ++ channel
  | youtubeChannel id => canonicalUrl? (youtubeChannel id)
  | odyseeChannel id => canonicalUrl? (odyseeChannel id)
  | subreddit name => canonicalUrl? (subreddit name)

end Resource
end Permalink
