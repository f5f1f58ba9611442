import ReplyGateway.Platform.Client
import ReplyGateway.Recency
import ReplyGateway.Reply.Passive
import ReplyGateway.Resolution
import ReplyGateway.Webhook

namespace ReplyGateway

/-- Replies by the way they take: one reply at most is the answer to the request, and all others are pushed through
the platform. -/
structure Delivery where
  /-- The reply in the answer to the request. -/
  inline : Option Reply
  /-- The replies pushed through the platform, in order. -/
  pushed : List Reply
  deriving DecidableEq, Repr

namespace Delivery

/-- The first reply is the answer if it is of a passive kind. -/
def ofReplies : List Reply → Delivery
  | [] => ⟨none, []⟩
  | first :: rest => if first.kind.isPassive then ⟨some first, rest⟩ else ⟨none, first :: rest⟩

/-- Of the replies to a message none is lost, and their order is kept. -/
theorem append_ofReplies (replies : List Reply) :
    (ofReplies replies).inline.toList ++ (ofReplies replies).pushed = replies := by
  cases replies with
  | nil => rfl
  | cons first rest => by_cases h : first.kind.isPassive = true <;> simp [ofReplies, h]

end Delivery

/-- What a request comes to. -/
inductive Outcome
  /-- The text that the platform wants to get back. -/
  | echo (text : String)
  | reply (body : String) (format : Format)
  /-- There is nothing to answer. -/
  | acknowledged
  deriving DecidableEq, Repr

/-- A gateway, with all that it remembers from request to request. The state of the platform is part of it. -/
structure Gateway (σ : Type) where
  configuration : Configuration
  /-- The credentials that requests are checked by. -/
  handlers : Recency String Credentials
  /-- The credentials that the platform is called with. -/
  clients : Recency String Credentials
  tokens : Token.Schedule σ

namespace Gateway

variable {σ : Type}

def start (configuration : Configuration) (handlerCapacity clientCapacity : Nat) (platform : σ) : Gateway σ :=
  ⟨configuration, .empty handlerCapacity, .empty clientCapacity, .start platform⟩

/-- For how many tenants the gateway remembers the credentials that requests are checked by. -/
def cachedTenants (g : Gateway σ) : Nat := g.handlers.size

def lookUp (c : Configuration) (tenantId : String) (_ : Unit) : Except Error Credentials × Unit :=
  (c.credentials tenantId, ())

/-- The credentials that requests to a tenant are checked by. -/
def handler (g : Gateway σ) (tenantId : String) : Gateway σ × Except Error Credentials :=
  let (tenant, handlers, _) := g.handlers.fetch (lookUp g.configuration) tenantId ()
  ({ g with handlers }, tenant)

/-- The credentials that the platform is called with for a tenant. -/
def client (g : Gateway σ) (tenantId : String) : Gateway σ × Except Error Credentials :=
  let (tenant, clients, _) := g.clients.fetch (lookUp g.configuration) tenantId ()
  ({ g with clients }, tenant)

/-- Proves to the platform that the gateway serves a tenant. -/
def verify (tenantId : String) (q : Webhook.Query) (g : Gateway σ) : Gateway σ × Except Error Outcome :=
  match g.handler tenantId with
  | (g, .error e) => (g, .error e)
  | (g, .ok tenant) =>
    (g, if q.isSigned tenant then .ok (.echo (q.echo.getD "")) else .error .authentication)

/-- Pushes replies one after another. One that fails does not keep the others back. -/
def pushAll (service : Platform.Service σ) (tenant : Credentials) (toUser : String) (replies : List Reply)
    (s : Token.Schedule σ) : Token.Schedule σ :=
  replies.foldl (fun s r => (Platform.sendReply service tenant toUser r s).1) s

/-- Pushes replies to a user, who sees first that they are being written if nothing else tells. -/
def push (service : Platform.Service σ) (tenantId toUser : String) (showsTyping : Bool) (replies : List Reply)
    (g : Gateway σ) : Gateway σ :=
  if replies.isEmpty then g
  else
    match g.client tenantId with
    | (g, .error _) => g
    | (g, .ok tenant) =>
      let tokens := if showsTyping then (Platform.sendTyping service tenant toUser g.tokens).1 else g.tokens
      { g with tokens := pushAll service tenant toUser replies tokens }

/-- What is answered to a message with a reply inside the answer. -/
def inlineOutcome (format : Format) (time : Int) (m : Inbound.Message) (inline : Option Reply) : Outcome :=
  match inline.bind (·.passiveText? format ⟨m.fromUser, m.toUser, time⟩) with
  | some body => .reply body format
  | none => .acknowledged

/-- Sends the replies to a message on their ways. -/
def dispatch (service : Platform.Service σ) (tenantId : String) (format : Format) (time : Int) (m : Inbound.Message)
    (replies : List Reply) (g : Gateway σ) : Gateway σ × Outcome :=
  let delivery := Delivery.ofReplies replies
  (g.push service tenantId m.fromUser delivery.inline.isNone delivery.pushed,
    inlineOutcome format time m delivery.inline)

/-- Answers a request that may hold a message. `draw` decides which reply is sent where one is chosen by
chance, and `time` is the present in seconds, which the reply tells. -/
def handle (service : Platform.Service σ) (draw : Nat) (time : Int) (tenantId : String) (q : Webhook.Query)
    (contentType : Option String) (body : Bytes) (g : Gateway σ) : Gateway σ × Except Error Outcome :=
  match g.handler tenantId with
  | (g, .error e) => (g, .error e)
  | (g, .ok tenant) =>
    let format := Format.ofContentType contentType
    match q.message tenant format body with
    | .error e => (g, .error e)
    | .ok none => (g, .ok .acknowledged)
    | .ok (some m) =>
      match Resolution.replies g.configuration tenantId m draw with
      | .error e => (g, .error e)
      | .ok replies =>
        let (g, outcome) := g.dispatch service tenantId format time m replies
        (g, .ok outcome)

end Gateway
end ReplyGateway
