import ReplyGateway.Xml.Attribute
import ReplyGateway.Xml.Run

namespace ReplyGateway.Xml

/-- The part of a name after its first colon. -/
def localName (name : List Char) : List Char :=
  match name.dropWhile (· ≠ ':') with
  | [] => name
  | _ :: rest => rest

/-- Drops the runs of spaces in front. -/
def dropBlankRuns : List Node → List Node
  | .run pieces :: rest => if isBlankRun pieces then dropBlankRuns rest else .run pieces :: rest
  | nodes => nodes

/-- Drops what does not count in front: runs of spaces and document types. -/
def dropVoid : List Node → List Node
  | .run pieces :: rest => if isBlankRun pieces then dropVoid rest else .run pieces :: rest
  | .doctype :: rest => dropVoid rest
  | nodes => nodes

/-- The text of an element that holds nothing but text. Its attributes are not looked at, and neither are the spaces
and document types around the text. -/
def textOf? : List Node → Option String
  | [] => some ""
  | .doctype :: rest => textOf? rest
  | .run pieces :: rest =>
    match trimRun? true pieces with
    | none => textOf? rest
    | some pieces => if (dropVoid rest).isEmpty then (runText? pieces).map String.ofList else none
  | .element .. :: _ => none

def Node.text? : Node → Option String
  | .element _ _ children => textOf? children
  | _ => none

/-- Whether an element in front leaves the reserved prefixes alone. -/
def startsLawfully : List Node → Bool
  | .element _ attributes _ :: _ => bindsLawfully attributes
  | _ => true

def startsWithRun : List Node → Bool
  | .run _ :: _ => true
  | _ => false

/-- Passes over what an element holds, and tells whether the spaces right after the element do not count.
Looked at is what comes first in it, one step into that if it is an element, and what follows next. The
spaces count if a run follows such an element. -/
def passOver (children : List Node) : Option Bool :=
  match dropVoid children with
  | .run pieces :: rest => if isReadableRun pieces && startsLawfully rest then some true else none
  | .element _ attributes inner :: rest =>
    let inner := dropBlankRuns inner
    let rest := if startsWithRun inner then rest else dropBlankRuns rest
    if bindsLawfully attributes && startsLawfully inner && startsLawfully rest then some (!startsWithRun rest)
    else none
  | _ => some true

/-- Puts child elements into the fields of their names. A child with another name is passed over; a second
one with the name of a field is an error. -/
def fillFields (names : List String) : List (Option Node) → List Node → Option (List (Option Node))
  | fields, [] => some fields
  | fields, .doctype :: rest => fillFields names fields rest
  | fields, .run pieces :: rest => if isReadableRun pieces then fillFields names fields rest else none
  | fields, .element name attributes children :: rest =>
    if !bindsLawfully attributes then none
    else
      match names.findIdx? (·.toList == localName name) with
      | none => if (passOver children).isSome then fillFields names fields rest else none
      | some i =>
        if (fields.getD i none).isSome then none
        else fillFields names (fields.set i (some (.element name attributes children))) rest

/-- The fields of an element in the order of `names`: every child element is a field that goes by the name after the
first colon. -/
def record? (names : List String) : Node → Option (List (Option Node))
  | .element _ attributes children =>
    if areAttributes attributes && bindsLawfully attributes then fillFields names (names.map fun _ => none) children
    else none
  | _ => none

/-- The text of a field that may hold elements beside its text: the last text wins, and an element with one
of the names `$text` and `$value` counts as text. `trimsStart` tells whether spaces at the start of a run in
front do not count. -/
def looseTextOf? (trimsStart : Bool) (found : String) : List Node → Option String
  | [] => some found
  | .doctype :: rest => looseTextOf? true found rest
  | .run pieces :: rest =>
    match trimRun? trimsStart pieces with
    | none => looseTextOf? true found rest
    | some pieces =>
      match runText? pieces with
      | none => none
      | some text => looseTextOf? true (String.ofList text) rest
  | .element name attributes children :: rest =>
    if !bindsLawfully attributes then none
    else if localName name = "$text".toList ∨ localName name = "$value".toList then
      match textOf? children with
      | none => none
      | some text => looseTextOf? true text rest
    else
      match passOver children with
      | none => none
      | some trimsStart => looseTextOf? trimsStart found rest

/-- The text of a field that may hold elements and attributes beside its text. -/
def Node.looseText? : Node → Option String
  | .element _ attributes children => if areAttributes attributes then looseTextOf? true "" children else none
  | _ => none

end ReplyGateway.Xml
