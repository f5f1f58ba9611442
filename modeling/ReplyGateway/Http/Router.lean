import ReplyGateway.Gateway
import ReplyGateway.Http.Form
import ReplyGateway.Http.Response

namespace ReplyGateway.Http

/-- What a path leads to. -/
inductive Route
  | health
  /-- The webhook of a tenant, whose name is given as it stands in the path. -/
  | webhook (segment : List Char)
  deriving DecidableEq, Repr

/-- The route of a path, which has to be spelled exactly. -/
def Route.ofPath? (path : List Char) : Option Route :=
  match pieces (· = '/') path with
  | [[], first] => if first = "health".toList then some health else none
  | [[], first, segment, last] =>
    if first = "gateway".toList ∧ last = "handler".toList then some (webhook segment) else none
  | _ => none

/-- The name of the tenant that a part of a path stands for. -/
def tenantId? (segment : List Char) : Option String :=
  Bytes.text? (percentDecode (Bytes.ofString (String.ofList segment)))

/-- The greatest number of bytes in the body of a request. -/
def bodyLimit : Nat := 1024 * 1024

/-- What is answered if there is nothing to say. -/
def acknowledgement : String := "success"

/-- The version that the gateway tells. -/
def version : String := "0.1.0"

namespace Response

def ofOutcome : Outcome → Response
  | .echo text => plain text
  | .reply body format => ok format.mime body
  | .acknowledged => plain acknowledgement

def ofResult : Except Error Outcome → Response
  | .ok outcome => ofOutcome outcome
  | .error e => failure e

/-- The report on the health of a gateway. -/
def health (cachedTenants : Nat) : Response :=
  json (.object [("status", .string "ok"), ("version", .string version),
    ("cached_tenants", .number (.integer cachedTenants))])

/-- The answer without its body if only its head was asked for. -/
def forMethod (r : Response) : Method → Response
  | .head => { r with body := "" }
  | _ => r

end Response

variable {σ : Type}

/-- The webhook of a tenant, whose name is a part of the path. -/
def webhook (service : Platform.Service σ) (draw : Nat) (time : Int) (segment : List Char) (r : Request)
    (g : Gateway σ) : Gateway σ × Response :=
  match r.method with
  | .other _ => (g, .bare 405)
  | .get | .head =>
    match tenantId? segment, webhookQuery? r.target.query with
    | some tenantId, some q =>
      let (g, result) := g.verify tenantId q
      (g, .ofResult result)
    | _, _ => (g, .bare 400)
  | .post =>
    match tenantId? segment, webhookQuery? r.target.query with
    | some tenantId, some q =>
      if bodyLimit < r.body.length then (g, .bare 413)
      else
        let (g, result) := g.handle service draw time tenantId q r.contentType? r.body
        (g, .ofResult result)
    | _, _ => (g, .bare 400)

/-- The way from a request to its answer: the health of the gateway, and a webhook for every tenant. -/
def respond (service : Platform.Service σ) (draw : Nat) (time : Int) (r : Request) (g : Gateway σ) :
    Gateway σ × Response :=
  let (g, response) : Gateway σ × Response :=
    match Route.ofPath? r.target.path with
    | none => (g, .bare 404)
    | some .health => (g, if r.method.isReading then .health g.cachedTenants else .bare 405)
    | some (.webhook segment) => webhook service draw time segment r g
  (g, response.forMethod r.method)

end ReplyGateway.Http
