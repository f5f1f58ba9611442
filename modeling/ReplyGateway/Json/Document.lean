import ReplyGateway.Json.Token
import ReplyGateway.Json.Tree

namespace ReplyGateway.Json

/-- An array or object that is open: what is complete in it, last first. An object waits for the value of a
name. -/
inductive Frame
  | array (items : List Document)
  | object (members : List (Bytes × Document)) (name : Bytes)

/-- What may follow, inside the open arrays and objects. These stand on a stack, so that they may lie inside each
other to any depth. -/
inductive Reading
  | value (stack : List Frame)
  | firstItem (stack : List Frame)
  | firstName (stack : List Frame)
  | nextName (stack : List Frame) (members : List (Bytes × Document))
  | colon (stack : List Frame) (members : List (Bytes × Document)) (name : Bytes)
  | after (stack : List Frame) (d : Document)

namespace Reading

/-- Takes the first token of a value. -/
def startValue (stack : List Frame) : Token → Option Reading
  | .openArray => some (firstItem stack)
  | .openObject => some (firstName stack)
  | .null => some (after stack .null)
  | .bool b => some (after stack (.bool b))
  | .number n => some (after stack (.number n))
  | .string raw => some (after stack (.string raw))
  | _ => none

/-- Takes one token. -/
def take : Reading → Token → Option Reading
  | value stack, token => startValue stack token
  | firstItem stack, .closeArray => some (after stack (.array []))
  | firstItem stack, token => startValue (.array [] :: stack) token
  | firstName stack, .closeObject => some (after stack (.object []))
  | firstName stack, .string raw => some (colon stack [] raw)
  | nextName stack members, .string raw => some (colon stack members raw)
  | colon stack members name, .colon => some (value (.object members name :: stack))
  | after (.array items :: stack) d, .comma => some (value (.array (d :: items) :: stack))
  | after (.array items :: stack) d, .closeArray => some (after stack (.array (d :: items).reverse))
  | after (.object members name :: stack) d, .comma => some (nextName stack ((name, d) :: members))
  | after (.object members name :: stack) d, .closeObject => some (after stack (.object ((name, d) :: members).reverse))
  | _, _ => none

/-- The document, when it is complete. -/
def finish? : Reading → Option Document
  | after [] d => some d
  | _ => none

end Reading

/-- The document that the bytes spell, with nothing after it. -/
def Document.ofBytes? (b : Bytes) : Option Document := do
  let tokens ← Token.ofBytes? b
  (← tokens.foldlM Reading.take (.value [])).finish?

def Document.ofString? (s : String) : Option Document := Document.ofBytes? (Bytes.ofString s)

end ReplyGateway.Json
