namespace ReplyGateway.Http

/-- Methods of HTTP requests. -/
inductive Method
  | get
  | head
  | post
  | other (name : String)
  deriving DecidableEq, Repr

/-- The method with a name, which has to be in capital letters. -/
def Method.ofName (name : String) : Method :=
  if name = "GET" then get else if name = "HEAD" then head else if name = "POST" then post else other name

/-- Whether the answer to a request is the same for both methods, but for its body. -/
def Method.isReading : Method → Bool
  | get | head => true
  | post | other _ => false

end ReplyGateway.Http
