import ReplyGateway.Reply.Payload

namespace ReplyGateway

open Json (Document Tree Value)

/-- The members of an object that no later member replaces. -/
def keepLast {α : Type} : List (String × α) → List (String × α)
  | [] => []
  | m :: rest => if rest.any (·.1 == m.1) then keepLast rest else m :: keepLast rest

mutual

/-- The value with one member for each name of an object, the last one. -/
def Json.Value.distinct : Value → Value
  | .array items => .array (distinctItems items)
  | .object members => .object (keepLast (distinctMembers members))
  | v => v

def distinctItems : List Value → List Value
  | [] => []
  | v :: rest => Json.Value.distinct v :: distinctItems rest

def distinctMembers : List (String × Value) → List (String × Value)
  | [] => []
  | (name, v) :: rest => (name, Json.Value.distinct v) :: distinctMembers rest

end

/-- The entry of a button in the text of a menu, which holds a payload under the key of every button. The menu has to
be an object throughout; `some none` if it has no such button. -/
def menuEntry? (key s : String) : Option (Option Value) := do
  match ← (← Document.ofString? s).value? Json.depthLimit with
  | .object members => some ((keepLast members).lookup key)
  | _ => none

/-- The payload of a button in the text of a menu; `some none` if the menu has no such button. The entries of other
buttons need not be payloads. -/
def menuPayload? (key s : String) : Option (Option Payload) := do
  match ← menuEntry? key s with
  | none => some none
  | some entry => (Payload.ofValue? entry.distinct).map some

end ReplyGateway
