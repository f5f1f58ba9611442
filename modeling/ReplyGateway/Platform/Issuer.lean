import ReplyGateway.Platform.Service
import ReplyGateway.Token.Call

namespace ReplyGateway.Platform

open Json (Document)

def tokenPath : String := "/cgi-bin/token"

/-- The request for an access token, by the key and the secret of a tenant. -/
def tokenRequest (tenant : Credentials) : Request where
  method := .get
  path := tokenPath
  query := [("grant_type", "client_credential"), ("appid", tenant.apiKey), ("secret", tenant.apiSecret)]
  body := none

/-- What the platform says when it is asked for a token. -/
structure Grant where
  token : String
  /-- How long the token is good for, in seconds. -/
  lifetime : Nat
  errorCode : Int
  errorMessage : String
  deriving DecidableEq, Repr

namespace Grant

def fieldNames : List String := ["access_token", "expires_in", "errcode", "errmsg"]

/-- A field that may be left out. -/
def field? {α : Type} (default : α) (read : Document → Option α) : Option Document → Option α
  | none => some default
  | some d => read d

def ofDocument? (d : Document) : Option Grant := do
  match ← d.record? fieldNames with
  | [token, lifetime, code, message] =>
    return ⟨← field? "" Document.text? token, ← field? 0 Document.natural? lifetime,
      ← field? 0 Document.integer? code, ← field? "" Document.text? message⟩
  | _ => none

/-- The token, unless it was refused. -/
def issued (tenant : Credentials) (g : Grant) : Except Error Token.Issued :=
  if g.errorCode ≠ 0 ∨ g.token = "" then
    .error (.credential s!"token issuance rejected for {tenant.apiKey}: {g.errorCode} {g.errorMessage}")
  else .ok ⟨g.token, g.lifetime * 1000⟩

end Grant

/-- The token that an answer of the platform holds. -/
def issued (tenant : Credentials) (answer : Option Answer) : Except Error Token.Issued := do
  match Grant.ofDocument? (← Answer.document "token endpoint" answer) with
  | none => .error (.transport none)
  | some grant => grant.issued tenant

/-- The platform as the issuer of its tokens. -/
def issuer {σ : Type} (service : Service σ) : Token.Issuer σ := fun tenant state =>
  let (answer, state) := service (tokenRequest tenant) state
  (⟨0, issued tenant answer⟩, state)

end ReplyGateway.Platform
