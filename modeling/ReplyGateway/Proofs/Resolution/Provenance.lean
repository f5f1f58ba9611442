import Mathlib
import ReplyGateway.Lists
import ReplyGateway.Proofs.Menu
import ReplyGateway.Proofs.Resolution.Isolation

namespace ReplyGateway

/-- The categories whose rules may answer a message. All other messages are left without an answer. -/
inductive Inbound.Content.Allows : Content → Category → Prop
  | subscribe {key ticket : String} : Allows (.event "subscribe" key ticket) .subscribe
  | click {key ticket : String} : Allows (.event "CLICK" key ticket) .menuClick
  | keyword {text : String} {id : Int} : Allows (.text text id) .keyword
  | text {text : String} {id : Int} : Allows (.text text id) .message
  | image {pictureUrl mediaId : String} {id : Int} : Allows (.image pictureUrl mediaId id) .message
  | voice {mediaId format mediaId16K : String} {id : Int} : Allows (.voice mediaId format mediaId16K id) .message
  | video {mediaId thumbMediaId : String} {id : Int} : Allows (.video mediaId thumbMediaId id) .message

/-- A rule stores a payload for a message: as its whole text, or in a menu under the key of the button. -/
inductive Store.RuleRow.Supplies (row : RuleRow) (p : Payload) : Inbound.Content → Prop
  | whole {content : Inbound.Content} : content.Allows row.category → row.category ≠ .menuClick →
      Payload.ofText? row.replyData = some p → Supplies row p content
  | button {key ticket : String} : row.category = .menuClick → Menu.Holds row.replyData key p →
      Supplies row p (.event "CLICK" key ticket)

namespace Resolution

/-- A search for the payload for a message fails only as the store does, and what it finds is stored for the message. -/
inductive Traced (c : Configuration) (tenantId : String) (content : Inbound.Content) :
    Except Error (Option Payload) → Prop
  | failed {category : Category} {e : Error} : content.Allows category → c.rules tenantId category = .error e →
      Traced c tenantId content (.error e)
  | nothing : Traced c tenantId content (.ok none)
  | found {row : Store.RuleRow} {p : Payload} : row ∈ c.database.rules.rows → row.tenantId = tenantId →
      row.Supplies p content → Traced c tenantId content (.ok (some p))

variable {c : Configuration} {tenantId : String} {content : Inbound.Content} {category : Category}

end Resolution
end ReplyGateway
