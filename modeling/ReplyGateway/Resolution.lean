import ReplyGateway.Configuration
import ReplyGateway.Inbound.Message

namespace ReplyGateway

namespace Rule

/-- Whether a rule with a payload has a keyword that means a text. -/
def isMatch (r : Rule) (text : String) : Bool :=
  r.replyData ≠ "" && r.keywords?.any fun ks => ks.any (·.isMatch text)

end Rule

namespace Resolution

/-- The event of a user who begins to follow the account. -/
def subscribeEvent : String := "subscribe"

/-- The event of a click on a button of the menu. -/
def clickEvent : String := "CLICK"

/-- The payload of the first rule of a category, if the category is switched on. -/
def single? (c : Configuration) (tenantId : String) (category : Category) : Except Error (Option Payload) := do
  if c.isEnabled tenantId category then
    return (← c.rules tenantId category).head?.bind Rule.payload?
  else return none

/-- The payload of the first rule with a keyword that means a text, if keywords are switched on. -/
def keyword? (c : Configuration) (tenantId text : String) : Except Error (Option Payload) := do
  if c.isEnabled tenantId .keyword then
    return ((← c.rules tenantId .keyword).find? (·.isMatch text)).bind Rule.payload?
  else return none

/-- The payload for a text: that of a keyword, or else that for messages in general. -/
def text? (c : Configuration) (tenantId text : String) : Except Error (Option Payload) := do
  match (← keyword? c tenantId text).filter fun p => !p.replies.isEmpty with
  | some p => return some p
  | none => single? c tenantId .message

/-- The payload of a button: the first one that can be read, over all menus. -/
def menu? (c : Configuration) (tenantId key : String) : Except Error (Option Payload) := do
  return (← c.rules tenantId .menuClick).findSome? fun r => (r.menuPayload? key).join

/-- The payload that answers a message. -/
def payload? (c : Configuration) (tenantId : String) (m : Inbound.Message) : Except Error (Option Payload) :=
  match m.content with
  | .text content _ => text? c tenantId content
  | .image .. | .voice .. | .video .. => single? c tenantId .message
  | .event event key _ =>
    if event = subscribeEvent then single? c tenantId .subscribe
    else if event = clickEvent then menu? c tenantId key
    else .ok none
  | .shortVideo .. | .location .. | .link .. => .ok none

/-- The stored replies that answer a message; `draw` decides which one where one is chosen by chance. A rule that is
malformed counts as one that does not answer. -/
def replies (c : Configuration) (tenantId : String) (m : Inbound.Message) (draw : Nat) : Except Error (List Reply) :=
  (payload? c tenantId m).map fun p => p.elim [] (·.select draw)

end Resolution
end ReplyGateway
