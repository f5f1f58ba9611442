import ReplyGateway.Format
import ReplyGateway.Json.Printer
import ReplyGateway.Reply.Message
import ReplyGateway.Xml.Printer

namespace ReplyGateway

open Json (Value)

def Article.passiveFields (a : Article) : List (String × String) :=
  [("Title", a.title), ("Description", a.description), ("PicUrl", a.pictureUrl), ("Url", a.url)]

namespace Reply

/-- What stands under a name in a passive reply. -/
inductive Part
  | text (s : String)
  | number (n : Int)
  | record (fields : List (String × String))
  /-- Records that each go by the name `item`. -/
  | items (records : List (List (String × String)))
  deriving DecidableEq, Repr

/-- Who a passive reply goes to and comes from, and when. -/
structure Address where
  toUser : String
  fromUser : String
  createTime : Int
  deriving DecidableEq, Repr

/-- The parts of a reply that its kind has of its own. -/
def ownParts? : Reply → Option (List (String × Part))
  | text content => some [("Content", .text content)]
  | image mediaId => some [("Image", .record [("MediaId", mediaId)])]
  | voice mediaId => some [("Voice", .record [("MediaId", mediaId)])]
  | video mediaId title description _ =>
    some [("Video", .record [("MediaId", mediaId), ("Title", title), ("Description", description)])]
  | music title description musicUrl hqMusicUrl thumb =>
    some [("Music", .record [("Title", title), ("Description", description), ("ThumbMediaId", thumb),
      ("MusicUrl", musicUrl), ("HQMusicUrl", hqMusicUrl)])]
  | news articles =>
    some [("ArticleCount", .number articles.length), ("Articles", .items (articles.map Article.passiveFields))]
  | mediaNews .. | publishedArticle .. | card .. | miniAppPage .. => none

/-- All parts of a passive reply; `none` for the kinds that cannot be passive. -/
def passiveParts? (address : Address) (r : Reply) : Option (List (String × Part)) :=
  r.ownParts?.map ([("ToUserName", .text address.toUser), ("FromUserName", .text address.fromUser),
    ("CreateTime", .number address.createTime), ("MsgType", .text r.kind.name)] ++ ·)

def writeXmlRecord (fields : List (String × String)) : List Char :=
  fields.flatMap fun (name, s) => Xml.writeElement name.toList (Xml.escape s.toList)

def Part.writeXml : Part → List Char
  | text s => Xml.escape s.toList
  | number n => (toString n).toList
  | record fields => writeXmlRecord fields
  | items records => records.flatMap fun fields => Xml.writeElement "item".toList (writeXmlRecord fields)

def rootName : String := "xml"

/-- Parts as an XML text. -/
def writeXml (parts : List (String × Part)) : List Char :=
  Xml.writeElement rootName.toList (parts.flatMap fun (name, part) => Xml.writeElement name.toList part.writeXml)

def recordValue (fields : List (String × String)) : Value := .object (fields.map fun (name, s) => (name, .string s))

def Part.toValue : Part → Value
  | text s => .string s
  | number n => .number (.integer n)
  | record fields => recordValue fields
  | items records => .object [("item", .array (records.map recordValue))]

/-- Parts as a JSON text. -/
def writeJson (parts : List (String × Part)) : List Char :=
  Value.write (.object (parts.map fun (name, part) => (name, part.toValue)))

/-- The form of a reply that is the answer to the request itself, in XML or JSON; `none` for the kinds that cannot be
passive. Both formats write the same parts in the same order. -/
def passiveText? (format : Format) (address : Address) (r : Reply) : Option String :=
  (r.passiveParts? address).map fun parts =>
    String.ofList (match format with
      | .xml => writeXml parts
      | .json => writeJson parts)

/-- Exactly the replies of passive kinds have a passive form. -/
theorem passiveText?_isSome (format : Format) (address : Address) (r : Reply) :
    (r.passiveText? format address).isSome = r.kind.isPassive := by
  cases r <;> rfl

end Reply
end ReplyGateway
