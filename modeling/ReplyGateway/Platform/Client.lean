import ReplyGateway.Menu
import ReplyGateway.Platform.Issuer
import ReplyGateway.Reply.Push
import ReplyGateway.Token.Schedule

namespace ReplyGateway.Platform

open Json (Document Value)

variable {σ : Type}

/-- A call to the platform, which carries the access token of a tenant. -/
def apiRequest (path token : String) (body : Value) : Request := ⟨.post, path, [("access_token", token)], some body⟩

/-- The last member of an object with a name. -/
def member? (name : String) : Value → Option Value
  | .object members => Json.Tree.lastMember? some name members
  | _ => none

/-- The error code in the answer to a call; zero if there is none. -/
def errorCode (v : Value) : Int :=
  match member? "errcode" v with
  | some (.number (.integer n)) => if isInt64 n then n else 0
  | _ => 0

def errorMessage (v : Value) : String := ((member? "errmsg" v).bind Json.Tree.string?).getD ""

/-- The value that an answer to a call holds. -/
def answerValue (path : String) (answer : Option Answer) : Except Error Value := do
  match (← Answer.document path answer).value? Json.depthLimit with
  | none => .error (.transport none)
  | some v => .ok v.distinct

/-- The error that an answer with an error code is. -/
def refusal (v : Value) : Error :=
  let code := errorCode v
  .platformApi code (
    if Error.tokenInvalidCodes.contains code then s!"access token rejected - {errorMessage v}"
    else if code = Error.unauthorizedCode then s!"API not authorised for this account - {errorMessage v}"
    else errorMessage v)

/-- Looks into the answer to a call for an error. -/
def check (service : Service σ) (tenant : Credentials) (v : Value) (s : Token.Schedule σ) :
    Token.Schedule σ × Except Error Value :=
  if errorCode v = 0 then (s, .ok v)
  else if (refusal v).isTokenInvalid then
    let (s, replaced) := s.replaceToken (issuer service) tenant
    (s, replaced.bind fun _ => .error (refusal v))
  else (s, .error (refusal v))

/-- Makes a call on behalf of a tenant, once: it is never repeated, but when the platform rejects the token, another
one is got. -/
def post (service : Service σ) (tenant : Credentials) (path : String) (body : Value) (s : Token.Schedule σ) :
    Token.Schedule σ × Except Error Value :=
  match s.token (issuer service) tenant with
  | (s, .error e) => (s, .error e)
  | (s, .ok token) =>
    let (answer, platform) := service (apiRequest path token body) s.issuer
    let s := { s with issuer := platform }
    match answerValue path answer with
    | .error e => (s, .error e)
    | .ok v => check service tenant v s

def sendPath : String := "/cgi-bin/message/custom/send"

def typingPath : String := "/cgi-bin/message/custom/typing"

def sendReply (service : Service σ) (tenant : Credentials) (toUser : String) (r : Reply) (s : Token.Schedule σ) :
    Token.Schedule σ × Except Error Value :=
  post service tenant sendPath (r.pushBodyTo toUser) s

def typingBody (toUser : String) : Value := .object [("touser", .string toUser), ("command", .string "Typing")]

/-- Shows a user that an answer is being written. -/
def sendTyping (service : Service σ) (tenant : Credentials) (toUser : String) (s : Token.Schedule σ) :
    Token.Schedule σ × Except Error Value :=
  post service tenant typingPath (typingBody toUser) s

end ReplyGateway.Platform
