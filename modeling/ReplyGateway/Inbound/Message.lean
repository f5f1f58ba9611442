namespace ReplyGateway.Inbound

/-- The kinds of messages from users. -/
inductive Kind
  | text
  | image
  | voice
  | video
  | shortVideo
  | location
  | link
  | event
  deriving DecidableEq, Repr

namespace Kind

def all : List Kind := [text, image, voice, video, shortVideo, location, link, event]

def name : Kind → String
  | text => "text"
  | image => "image"
  | voice => "voice"
  | video => "video"
  | shortVideo => "shortvideo"
  | location => "location"
  | link => "link"
  | event => "event"

def ofName? (name : String) : Option Kind := all.find? (·.name == name)

theorem ofName?_name (k : Kind) : ofName? k.name = some k := by cases k <;> decide +kernel

theorem name_of_ofName? {name : String} {k : Kind} (h : ofName? name = some k) : k.name = name := by
  simpa using List.find?_some h

end Kind

/-- What a message says, by its kind. All but events carry a number of their own. -/
inductive Content
  | text (content : String) (id : Int)
  | image (pictureUrl mediaId : String) (id : Int)
  | voice (mediaId format mediaId16K : String) (id : Int)
  | video (mediaId thumbMediaId : String) (id : Int)
  | shortVideo (mediaId thumbMediaId : String) (id : Int)
  | location (latitude longitude scale label : String) (id : Int)
  | link (title description url : String) (id : Int)
  | event (event key ticket : String)
  deriving DecidableEq, Repr

def Content.kind : Content → Kind
  | text .. => .text
  | image .. => .image
  | voice .. => .voice
  | video .. => .video
  | shortVideo .. => .shortVideo
  | location .. => .location
  | link .. => .link
  | event .. => .event

/-- A message from a user. -/
structure Message where
  /-- The account the message was sent to. -/
  toUser : String
  /-- The user who sent it, and who gets the replies. -/
  fromUser : String
  createTime : Int
  content : Content
  deriving DecidableEq, Repr

def Message.kind (m : Message) : Kind := m.content.kind

end ReplyGateway.Inbound
