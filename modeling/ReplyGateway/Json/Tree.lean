import ReplyGateway.Json.Numeral
import ReplyGateway.Json.Quoted

namespace ReplyGateway.Json

/-- The tree of a JSON text, over any kind of texts and numbers. Members of an object keep their order, and names may
repeat. -/
inductive Tree (Text Num : Type)
  | null
  | bool (b : Bool)
  | number (n : Num)
  | string (s : Text)
  | array (items : List (Tree Text Num))
  | object (members : List (Text × Tree Text Num))

/-- A text as it is written: the bytes between its quotes. -/
abbrev Document := Tree Bytes Numeral

/-- A text that has been read throughout. -/
abbrev Value := Tree String Number

namespace Tree

variable {Text Num : Type}

def bool? : Tree Text Num → Option Bool
  | bool b => some b
  | _ => none

def string? : Tree Text Num → Option Text
  | string s => some s
  | _ => none

def array? : Tree Text Num → Option (List (Tree Text Num))
  | array items => some items
  | _ => none

/-- Where a name stands among names. -/
def position? (names : List String) (name : String) : Option Nat := names.findIdx? (· == name)

/-- Puts the members of an object into the fields of their names. A member with another name is left out;
a second one with the name of a field is an error, and so is a name that cannot be read. -/
def fillFields (readName : Text → Option String) (names : List String) :
    List (Option (Tree Text Num)) → List (Text × Tree Text Num) → Option (List (Option (Tree Text Num)))
  | fields, [] => some fields
  | fields, (name, t) :: rest =>
    match readName name with
    | none => none
    | some name =>
      match position? names name with
      | none => fillFields readName names fields rest
      | some i => if (fields.getD i none).isSome then none else fillFields readName names (fields.set i (some t)) rest

/-- The fields of a record in the order of `names`: the members of an object, or the items of an array in
order. An array may be shorter than the record, but not longer. -/
def record? (readName : Text → Option String) (names : List String) :
    Tree Text Num → Option (List (Option (Tree Text Num)))
  | object members => fillFields readName names (names.map fun _ => none) members
  | array items =>
    if items.length ≤ names.length then
      some (items.map some ++ List.replicate (names.length - items.length) none)
    else none
  | _ => none

/-- The member with a name; of several, the last. -/
def lastMember? (readName : Text → Option String) (name : String) (members : List (Text × Tree Text Num)) :
    Option (Tree Text Num) :=
  (members.reverse.find? fun m => readName m.1 == some name).map (·.2)

end Tree

/-- The greatest number of arrays and objects around a value that is read, itself included. -/
def depthLimit : Nat := 127

/-- Reads a document throughout, if no more than `depth` arrays and objects lie inside each other. -/
def Document.value? : Nat → Document → Option Value
  | _, .null => some .null
  | _, .bool b => some (.bool b)
  | _, .number n => n.value?.map .number
  | _, .string s => (Quoted.decode s).map .string
  | 0, .array _ => none
  | 0, .object _ => none
  | depth + 1, .array items => (items.mapM (value? depth)).map .array
  | depth + 1, .object members =>
    (members.mapM fun ((name, d) : Bytes × Document) => do
      return (← Quoted.decode name, ← value? depth d)).map .object

end ReplyGateway.Json
