import ReplyGateway.Json.Tree

namespace ReplyGateway.Json

/-- A number: a floating point number that is whole and not too large shows one decimal place. -/
def Number.write : Number → List Char
  | .integer n => (toString n).toList
  | .float negative magnitude => Decimal.scientific negative magnitude

mutual

def Value.write : Value → List Char
  | .null => "null".toList
  | .bool b => (if b then "true" else "false").toList
  | .number n => n.write
  | .string s => Quoted.encode s
  | .array items => '[' :: Value.writeItems items
  | .object members => '\x7b' :: Value.writeMembers members

/-- Items with the bracket that closes them. -/
def Value.writeItems : List Value → List Char
  | [] => [']']
  | [v] => Value.write v ++ [']']
  | v :: rest => Value.write v ++ ',' :: Value.writeItems rest

/-- Members with the brace that closes them. -/
def Value.writeMembers : List (String × Value) → List Char
  | [] => ['\x7d']
  | [(name, v)] => Quoted.encode name ++ ':' :: (Value.write v ++ ['\x7d'])
  | (name, v) :: rest => Quoted.encode name ++ ':' :: (Value.write v ++ ',' :: Value.writeMembers rest)

end

/-- The compact text of a value: no spaces, members in their order. -/
def Value.text (v : Value) : String := String.ofList v.write

end ReplyGateway.Json
