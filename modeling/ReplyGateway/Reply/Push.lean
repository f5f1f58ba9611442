import ReplyGateway.Json.Tree
import ReplyGateway.Reply.Message

namespace ReplyGateway

open Json (Value)

def Article.pushValue (a : Article) : Value :=
  .object [("title", .string a.title), ("description", .string a.description), ("picurl", .string a.pictureUrl),
    ("url", .string a.url)]

namespace Reply

/-- The fields of a reply by the platform's names. -/
def pushFields : Reply → List (String × Value)
  | text content => [("content", .string content)]
  | image mediaId => [("media_id", .string mediaId)]
  | voice mediaId => [("media_id", .string mediaId)]
  | video mediaId title description thumb =>
    [("media_id", .string mediaId), ("thumb_media_id", .string thumb), ("title", .string title),
      ("description", .string description)]
  | music title description musicUrl hqMusicUrl thumb =>
    [("title", .string title), ("description", .string description), ("musicurl", .string musicUrl),
      ("hqmusicurl", .string hqMusicUrl), ("thumb_media_id", .string thumb)]
  | news articles => [("articles", .array (articles.map Article.pushValue))]
  | mediaNews mediaId => [("media_id", .string mediaId)]
  | publishedArticle articleId => [("article_id", .string articleId)]
  | card cardId => [("card_id", .string cardId)]
  | miniAppPage title appId pagePath thumb =>
    [("title", .string title), ("appid", .string appId), ("pagepath", .string pagePath),
      ("thumb_media_id", .string thumb)]

/-- The members of a push without its receiver. -/
def pushMembers (r : Reply) : List (String × Value) :=
  [("msgtype", .string r.kind.name), (r.kind.name, .object r.pushFields)]

/-- A push without its receiver. -/
def pushBody (r : Reply) : Value := .object r.pushMembers

/-- The form in which a reply is pushed through the platform: its receiver, its kind, and under the name of the kind
the fields of that kind. -/
def pushBodyTo (toUser : String) (r : Reply) : Value :=
  .object (r.pushMembers ++ [("touser", .string toUser)])

end Reply
end ReplyGateway
