import ReplyGateway.Http.Request
import ReplyGateway.Text.Lossy
import ReplyGateway.Text.Percent
import ReplyGateway.Text.Pieces
import ReplyGateway.Webhook

namespace ReplyGateway.Http

/-- The text that a part of a form stands for: a plus sign is a space, and bytes may be escaped. -/
def formText (cs : List Char) : String :=
  let spaced := cs.map fun c => if c = '+' then ' ' else c
  lossyText (percentDecode (Bytes.ofString (String.ofList spaced)))

/-- The names and values of a form. A name without an equals sign has the empty value. -/
def formPairs (query : List Char) : List (String × String) :=
  ((pieces (· = '&') query).filter fun piece => !piece.isEmpty).map fun piece =>
    let (name, value) := cut (· = '=') piece
    (formText name, formText value)

/-- The value of a name in the query of a request; `some none` if it has none, and `none` if it has several. -/
def only? (name : String) (pairs : List (String × String)) : Option (Option String) :=
  match pairs.filter fun p => p.1 = name with
  | [] => some none
  | [p] => some (some p.2)
  | _ => none

/-- The values that a webhook looks for in a query. -/
def webhookQuery? (query : List Char) : Option Webhook.Query := do
  let pairs := formPairs query
  return {
    signature := (← only? "signature" pairs).getD ""
    timestamp := (← only? "timestamp" pairs).getD ""
    nonce := (← only? "nonce" pairs).getD ""
    echo := ← only? "echostr" pairs
    encryption := ← only? "encrypt_type" pairs
    bodySignature := ← only? "msg_signature" pairs }

end ReplyGateway.Http
