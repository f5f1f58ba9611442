import ReplyGateway.Error
import ReplyGateway.Json.Printer

namespace ReplyGateway.Http

/-- An answer to an HTTP request. -/
structure Response where
  status : Nat
  contentType : String
  body : String
  deriving DecidableEq, Repr

namespace Response

/-- A successful answer. -/
def ok (contentType body : String) : Response := ⟨200, contentType, body⟩

/-- An answer with a status that says all. -/
def bare (status : Nat) : Response := ⟨status, "", ""⟩

/-- A successful answer that is a JSON document. -/
def json (v : Json.Value) : Response := ok "application/json" v.text

/-- A successful answer in plain text. -/
def plain (text : String) : Response := ok "text/plain; charset=utf-8" text

/-- What an answer shows of an error. -/
def failure (e : Error) : Response :=
  json (.object [("code", .number (.integer e.code)), ("message", .string e.publicMessage)])

/-- A failure is told in the body of an answer with status 200, because the platform repeats requests that get any
other status. -/
theorem status_failure (e : Error) : (failure e).status = 200 := rfl

end Response
end ReplyGateway.Http
