import ReplyGateway.Json.Tree
import ReplyGateway.Text.Integer

namespace ReplyGateway.Json.Document

/-- A text, which is decoded only where a field is expected to hold one. -/
def text? (d : Document) : Option String := d.string?.bind Quoted.decode

/-- A whole number of 64 bits. -/
def integer? : Document → Option Int
  | .number n =>
    match n.value? with
    | some (.integer n) => if isInt64 n then some n else none
    | _ => none
  | _ => none

/-- A whole number of 64 bits without a sign. -/
def natural? : Document → Option Nat
  | .number n =>
    match n.value? with
    | some (.integer n) => if 0 ≤ n then some n.toNat else none
    | _ => none
  | _ => none

/-- The text among the members of an object: the last one with the name `$text` or `$value`. -/
def memberText? (found : String) : List (Bytes × Document) → Option String
  | [] => some found
  | (name, d) :: rest =>
    match Quoted.decode name with
    | none => none
    | some name =>
      if name = "$text" ∨ name = "$value" then
        match text? d with
        | none => none
        | some text => memberText? text rest
      else memberText? found rest

/-- A string, or a number in its shortest form; null is an empty text, and an object may hold a text among
its members. -/
def looseText? : Document → Option String
  | .null => some ""
  | .string raw => Quoted.decode raw
  | .number n => n.value?.map Number.text
  | .object members => memberText? "" members
  | _ => none

/-- The fields of a record. -/
def record? (names : List String) (d : Document) : Option (List (Option Document)) :=
  Tree.record? Quoted.decode names d

end ReplyGateway.Json.Document
