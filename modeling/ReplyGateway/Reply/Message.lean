namespace ReplyGateway

structure Article where
  title : String := ""
  description : String := ""
  pictureUrl : String := ""
  url : String := ""
  deriving DecidableEq, Repr

/-- Replies to users. -/
inductive Reply
  | text (content : String)
  | image (mediaId : String)
  | voice (mediaId : String)
  | video (mediaId title description thumbMediaId : String)
  | music (title description musicUrl hqMusicUrl thumbMediaId : String)
  | news (articles : List Article)
  /-- A bundle of articles that the platform holds under a media id. -/
  | mediaNews (mediaId : String)
  /-- A published article under its own id. -/
  | publishedArticle (articleId : String)
  | card (cardId : String)
  | miniAppPage (title appId pagePath thumbMediaId : String)
  deriving DecidableEq, Repr

namespace Reply

/-- The kinds of replies. -/
inductive Kind
  | text
  | image
  | voice
  | video
  | music
  | news
  | mediaNews
  | publishedArticle
  | card
  | miniAppPage
  deriving DecidableEq, Repr

namespace Kind

def all : List Kind :=
  [text, image, voice, video, music, news, mediaNews, publishedArticle, card, miniAppPage]

def name : Kind → String
  | text => "text"
  | image => "image"
  | voice => "voice"
  | video => "video"
  | music => "music"
  | news => "news"
  | mediaNews => "mpnews"
  | publishedArticle => "mpnewsarticle"
  | card => "wxcard"
  | miniAppPage => "miniprogrampage"

def ofName? (name : String) : Option Kind := all.find? (·.name == name)

/-- A kind is found by its name. -/
theorem ofName?_name (k : Kind) : ofName? k.name = some k := by cases k <;> decide +kernel

/-- Whether a reply of this kind may stand in the answer to the request itself. -/
def isPassive : Kind → Bool
  | text | image | voice | video | music | news => true
  | mediaNews | publishedArticle | card | miniAppPage => false

end Kind

def kind : Reply → Kind
  | text .. => .text
  | image .. => .image
  | voice .. => .voice
  | video .. => .video
  | music .. => .music
  | news .. => .news
  | mediaNews .. => .mediaNews
  | publishedArticle .. => .publishedArticle
  | card .. => .card
  | miniAppPage .. => .miniAppPage

end Reply
end ReplyGateway
