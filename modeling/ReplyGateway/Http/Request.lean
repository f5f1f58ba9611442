import ReplyGateway.Bytes
import ReplyGateway.Http.Method

namespace ReplyGateway.Http

/-- What a request is for: a path, and a query after a question mark. -/
structure Target where
  path : List Char
  query : List Char
  deriving DecidableEq, Repr

/-- The text before the first character that satisfies `p`, and the text after that character. -/
def cut (p : Char → Bool) (cs : List Char) : List Char × List Char :=
  let (before, rest) := cs.span fun c => !p c
  (before, rest.drop 1)

/-- The target without the scheme and the host that may stand before its path. -/
def dropHost (cs : List Char) : List Char :=
  match cs with
  | '/' :: _ => cs
  | _ =>
    match (cut (· = ':') cs).2 with
    | '/' :: '/' :: rest => rest.dropWhile fun c => c ≠ '/' ∧ c ≠ '?'
    | _ => []

/-- The target that a text names. What follows a number sign is not part of it. -/
def Target.ofString (s : String) : Target :=
  let (path, query) := cut (· = '?') (dropHost (cut (· = '#') s.toList).1)
  ⟨path, query⟩

/-- An HTTP request, with its headers in their order. -/
structure Request where
  method : Method
  target : Target
  headers : List (String × String)
  body : Bytes

namespace Request

/-- The value of the first header with a name, which is given in small letters. -/
def header? (r : Request) (name : String) : Option String :=
  (r.headers.find? fun h => h.1.toList.map Char.toLower == name.toList).map (·.2)

/-- Whether a character may stand in a header that is read as a text. -/
def isHeaderChar (c : Char) : Bool := (32 ≤ c.toNat && c.toNat < 127) || c = '\t'

/-- The content type, if it can be read as a text. -/
def contentType? (r : Request) : Option String := (r.header? "content-type").filter fun s => s.toList.all isHeaderChar

end Request
end ReplyGateway.Http
