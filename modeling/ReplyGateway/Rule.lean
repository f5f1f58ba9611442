import ReplyGateway.Category
import ReplyGateway.Instant
import ReplyGateway.Keyword
import ReplyGateway.Menu

namespace ReplyGateway

/-- A rule: documents that an administrator writes, which hold replies for one category of messages. They are read
when they are needed, so that one that is malformed does not keep the other rules from being used. -/
structure Rule where
  id : Int
  tenantId : String
  category : Category
  title : String
  /-- The payload in use; for menu clicks, the payloads under the keys of their buttons. -/
  replyData : String
  /-- The keyword definitions. -/
  keywordData : String
  /-- The name of the rule on the side of the platform. -/
  externalId : String
  /-- Changes that are not in use yet. -/
  draftData : String
  createdAt : Instant
  deriving DecidableEq, Repr

namespace Rule

def payload? (r : Rule) : Option Payload := Payload.ofText? r.replyData

/-- The payload of a button; `some none` if the menu has no such button. -/
def menuPayload? (r : Rule) (key : String) : Option (Option Payload) := ReplyGateway.menuPayload? key r.replyData

def keywords? (r : Rule) : Option (List Keyword) := Keyword.listOfText? r.keywordData

end Rule
end ReplyGateway
