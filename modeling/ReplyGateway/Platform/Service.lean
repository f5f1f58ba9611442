import ReplyGateway.Error
import ReplyGateway.Http.Method
import ReplyGateway.Http.Status
import ReplyGateway.Json.Document
import ReplyGateway.Json.Reader

namespace ReplyGateway.Platform

open Json (Document Value)

/-- A request of the gateway to the platform. -/
structure Request where
  method : Http.Method
  path : String
  query : List (String × String)
  body : Option Value

/-- An answer of the platform that arrives. -/
structure Answer where
  status : Nat
  body : Bytes
  deriving DecidableEq, Repr

/-- A platform with a state of its own: what it answers to a request, if the connection holds. -/
abbrev Service (σ : Type) := Request → σ → Option Answer × σ

def unreachable {σ : Type} : Service σ := fun _ state => (none, state)

/-- The body of an answer that tells success by its status, read as a document. -/
def Answer.document (what : String) : Option Answer → Except Error Document
  | none => .error (.transport none)
  | some answer =>
    if !Http.isSuccess answer.status then
      .error (.transport (some s!"{what} returned {Http.statusText answer.status}"))
    else
      match Document.ofBytes? answer.body with
      | none => .error (.transport none)
      | some d => .ok d

end ReplyGateway.Platform
