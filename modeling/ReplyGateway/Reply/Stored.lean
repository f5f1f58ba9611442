import ReplyGateway.Json.Document
import ReplyGateway.Json.Printer
import ReplyGateway.Reply.Message

namespace ReplyGateway

open Json (Value Tree)

/-- The text of a field, empty where it is not given. -/
def Reply.fieldText? : Option Value → Option String
  | none => some ""
  | some (.string s) => some s
  | some _ => none

namespace Article

def fieldNames : List String := ["title", "description", "pic_url", "url"]

def toValue (a : Article) : Value :=
  .object [("title", .string a.title), ("description", .string a.description), ("pic_url", .string a.pictureUrl),
    ("url", .string a.url)]

def ofValue? (v : Value) : Option Article := do
  match ← Tree.record? some fieldNames v with
  | [title, description, pictureUrl, url] =>
    return ⟨← Reply.fieldText? title, ← Reply.fieldText? description, ← Reply.fieldText? pictureUrl,
      ← Reply.fieldText? url⟩
  | _ => none

end Article

namespace Reply

/-- The name of the member that tells the kind. -/
def tagName : String := "msg_type"

/-- The names of the other members, in the order in which a form without names gives them. -/
def Kind.fieldNames : Kind → List String
  | text => ["content"]
  | image => ["media_id"]
  | voice => ["media_id"]
  | video => ["media_id", "title", "description", "thumb_media_id"]
  | music => ["title", "description", "music_url", "hq_music_url", "thumb_media_id"]
  | news => ["articles"]
  | mediaNews => ["media_id"]
  | publishedArticle => ["article_id"]
  | card => ["card_id"]
  | miniAppPage => ["title", "appid", "pagepath", "thumb_media_id"]

/-- The articles of a field, none where it is not given. -/
def fieldArticles? : Option Value → Option (List Article)
  | none => some []
  | some (.array items) => items.mapM Article.ofValue?
  | some _ => none

/-- The reply of a kind with the given fields. -/
def ofFields? : Kind → List (Option Value) → Option Reply
  | .text, [content] => (fieldText? content).map .text
  | .image, [mediaId] => (fieldText? mediaId).map .image
  | .voice, [mediaId] => (fieldText? mediaId).map .voice
  | .video, [mediaId, title, description, thumb] => do
    return .video (← fieldText? mediaId) (← fieldText? title) (← fieldText? description) (← fieldText? thumb)
  | .music, [title, description, musicUrl, hqMusicUrl, thumb] => do
    return .music (← fieldText? title) (← fieldText? description) (← fieldText? musicUrl)
      (← fieldText? hqMusicUrl) (← fieldText? thumb)
  | .news, [articles] => (fieldArticles? articles).map .news
  | .mediaNews, [mediaId] => (fieldText? mediaId).map .mediaNews
  | .publishedArticle, [articleId] => (fieldText? articleId).map .publishedArticle
  | .card, [cardId] => (fieldText? cardId).map .card
  | .miniAppPage, [title, appId, pagePath, thumb] => do
    return .miniAppPage (← fieldText? title) (← fieldText? appId) (← fieldText? pagePath) (← fieldText? thumb)
  | _, _ => none

/-- The values of the other members, in the order of their names. -/
def fieldValues : Reply → List Value
  | text content => [.string content]
  | image mediaId => [.string mediaId]
  | voice mediaId => [.string mediaId]
  | video mediaId title description thumb => [mediaId, title, description, thumb].map .string
  | music title description musicUrl hqMusicUrl thumb =>
    [title, description, musicUrl, hqMusicUrl, thumb].map .string
  | news articles => [.array (articles.map Article.toValue)]
  | mediaNews mediaId => [.string mediaId]
  | publishedArticle articleId => [.string articleId]
  | card cardId => [.string cardId]
  | miniAppPage title appId pagePath thumb => [title, appId, pagePath, thumb].map .string

/-- The form in which a reply is stored: an object whose member `msg_type` names the kind, then the fields of that
kind. -/
def toValue (r : Reply) : Value :=
  .object ((tagName, .string r.kind.name) :: r.kind.fieldNames.zip r.fieldValues)

/-- The kind and the rest of a stored form. An array gives the kind as its first item and the fields after
it. -/
def splitTag? : Value → Option (Kind × Value)
  | .object members =>
    match members.filter (·.1 == tagName) with
    | [(_, .string name)] => (Kind.ofName? name).map (·, .object (members.filter (·.1 != tagName)))
    | _ => none
  | .array (.string name :: rest) => (Kind.ofName? name).map (·, .array rest)
  | _ => none

/-- Reads a stored form. Members that the kind does not have are left out. -/
def ofValue? (v : Value) : Option Reply := do
  let (kind, rest) ← splitTag? v
  ofFields? kind (← Tree.record? some kind.fieldNames rest)

def ofText? (s : String) : Option Reply := do
  ofValue? (← (← Json.Document.ofString? s).value? Json.depthLimit)

end Reply
end ReplyGateway
