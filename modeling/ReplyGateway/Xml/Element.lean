import ReplyGateway.Xml.Markup
import ReplyGateway.Xml.Reference

namespace ReplyGateway.Xml

/-- A part of a run. -/
inductive Piece
  /-- Text with its references. -/
  | text (raw : List Char)
  | verbatim (raw : List Char)
  deriving DecidableEq, Repr

/-- An element of an XML text with what it holds. Text and verbatim sections in a row form a run, also across
comments. -/
inductive Node
  | run (pieces : List Piece)
  | element (name attributes : List Char) (children : List Node)
  | doctype

/-- An element that is open: what is complete in it, last first, and the run that has begun, last first. Open elements
stand on a stack, so that they may lie inside each other to any depth. -/
structure Open where
  name : List Char
  attributes : List Char
  children : List Node
  run : List Piece

namespace Open

def start (name attributes : List Char) : Open := ⟨name, attributes, [], []⟩

/-- Completes the run that has begun. -/
def endRun (o : Open) : Open :=
  { o with children := if o.run.isEmpty then o.children else .run o.run.reverse :: o.children, run := [] }

def addPiece (o : Open) (piece : Piece) : Open := { o with run := piece :: o.run }

/-- Adds what is no part of a run. -/
def addChild (o : Open) (child : Node) : Open := { o.endRun with children := child :: o.endRun.children }

def close (o : Open) : Node := .element o.name o.attributes o.endRun.children.reverse

end Open

/-- How far an XML text has been read. -/
inductive Progress
  /-- Inside the open elements, innermost first; before the outermost element there is none. -/
  | inside (stack : List Open)
  | complete (root : Node)

namespace Progress

/-- Puts a complete element where it belongs. -/
def close (child : Node) : List Open → Progress
  | [] => complete child
  | o :: rest => inside (o.addChild child :: rest)

/-- Takes one piece. Before the outermost element there is no text, and a closing tag has the name of the
innermost open element. -/
def take (stack : List Open) : Markup → Option Progress
  | .aside => some (inside stack)
  | .doctype => some (inside (match stack with | [] => [] | o :: rest => o.addChild .doctype :: rest))
  | .text raw =>
    match stack with
    | [] => if raw.all isSpace then some (inside []) else none
    | o :: rest => some (inside (o.addPiece (.text raw) :: rest))
  | .verbatim raw =>
    match stack with
    | [] => none
    | o :: rest => some (inside (o.addPiece (.verbatim raw) :: rest))
  | .opening name attributes true => some (close (.element name attributes []) stack)
  | .opening name attributes false => some (inside (Open.start name attributes :: stack))
  | .closing name =>
    match stack with
    | [] => none
    | o :: rest => if o.name = name then some (close o.close rest) else none

end Progress

/-- Reads pieces until the outermost element is complete, as long as `fuel` lasts. -/
def readRoot : Nat → List Open → List Char → Option Node
  | 0, _, _ => none
  | _, _, [] => none
  | fuel + 1, stack, cs =>
    match Markup.next cs with
    | none => none
    | some (piece, rest) =>
      match Progress.take stack piece with
      | none => none
      | some (.complete root) => some root
      | some (.inside stack) => readRoot fuel stack rest

/-- The outermost element of a text; nothing after its end is looked at. Every piece takes at least one character; a
byte order mark in front does not count. -/
def rootOf? (text : List Char) : Option Node :=
  let text := if text.head? = some '\ufeff' then text.tail else text
  readRoot text.length [] text

end ReplyGateway.Xml
