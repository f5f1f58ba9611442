import ReplyGateway.Inbound.Message

namespace ReplyGateway.Inbound

/-- The fields of a request body, of which every kind of message takes its own. -/
inductive Field
  | toUserName
  | fromUserName
  | createTime
  | msgType
  | msgId
  | content
  | picUrl
  | mediaId
  | format
  | mediaId16K
  | thumbMediaId
  | locationX
  | locationY
  | scale
  | label
  | title
  | description
  | url
  | event
  | eventKey
  | ticket
  deriving DecidableEq, Repr

/-- What a field holds. -/
inductive Shape
  | text
  /-- Text that may be written as a number. -/
  | looseText
  | number
  deriving DecidableEq, Repr

namespace Field

/-- All fields, in the order in which a body without names gives them. -/
def all : List Field :=
  [toUserName, fromUserName, createTime, msgType, msgId, content, picUrl, mediaId, format, mediaId16K, thumbMediaId,
    locationX, locationY, scale, label, title, description, url, event, eventKey, ticket]

def name : Field → String
  | toUserName => "ToUserName"
  | fromUserName => "FromUserName"
  | createTime => "CreateTime"
  | msgType => "MsgType"
  | msgId => "MsgId"
  | content => "Content"
  | picUrl => "PicUrl"
  | mediaId => "MediaId"
  | format => "Format"
  | mediaId16K => "MediaId16K"
  | thumbMediaId => "ThumbMediaId"
  | locationX => "Location_X"
  | locationY => "Location_Y"
  | scale => "Scale"
  | label => "Label"
  | title => "Title"
  | description => "Description"
  | url => "Url"
  | event => "Event"
  | eventKey => "EventKey"
  | ticket => "Ticket"

def shape : Field → Shape
  | createTime | msgId => .number
  | locationX | locationY | scale => .looseText
  | _ => .text

end Field

/-- What is in a field. -/
inductive Entry
  | text (s : String)
  | number (n : Int)
  deriving DecidableEq, Repr

/-- The fields that a body gives, each at most once. -/
abbrev Form := List (Field × Entry)

namespace Form

/-- The text of a field, empty where it is not given. -/
def text (form : Form) (field : Field) : String :=
  match form.lookup field with
  | some (.text s) => s
  | _ => ""

/-- The number of a field, zero where it is not given. -/
def number (form : Form) (field : Field) : Int :=
  match form.lookup field with
  | some (.number n) => n
  | _ => 0

/-- The content of a message of a kind. -/
def content (form : Form) : Kind → Content
  | .text => .text (form.text .content) (form.number .msgId)
  | .image => .image (form.text .picUrl) (form.text .mediaId) (form.number .msgId)
  | .voice => .voice (form.text .mediaId) (form.text .format) (form.text .mediaId16K) (form.number .msgId)
  | .video => .video (form.text .mediaId) (form.text .thumbMediaId) (form.number .msgId)
  | .shortVideo => .shortVideo (form.text .mediaId) (form.text .thumbMediaId) (form.number .msgId)
  | .location =>
    .location (form.text .locationX) (form.text .locationY) (form.text .scale) (form.text .label) (form.number .msgId)
  | .link => .link (form.text .title) (form.text .description) (form.text .url) (form.number .msgId)
  | .event => .event (form.text .event) (form.text .eventKey) (form.text .ticket)

/-- The message of a form, if `MsgType` names a kind. -/
def message? (form : Form) : Option Message :=
  (Kind.ofName? (form.text .msgType)).map fun kind =>
    ⟨form.text .toUserName, form.text .fromUserName, form.number .createTime, form.content kind⟩

theorem kind_content (form : Form) (kind : Kind) : (form.content kind).kind = kind := by cases kind <;> rfl

/-- The kind of a message is the one that the field `MsgType` names. -/
theorem kind_of_message? {form : Form} {m : Message} (h : form.message? = some m) :
    m.kind.name = form.text .msgType := by
  obtain ⟨kind, found, rfl⟩ := Option.map_eq_some_iff.1 h
  simpa [Message.kind, kind_content] using Kind.name_of_ofName? found

/-- Pairs the fields of a record with what they hold. -/
def ofFields? {α : Type} (read? : Shape → α → Option Entry) (fields : List (Option α)) : Option Form :=
  ((Field.all.zip fields).filterMap fun (field, given) => given.map (field, ·)).mapM fun (field, given) =>
    (read? field.shape given).map (field, ·)

end Form
end ReplyGateway.Inbound
