import ReplyGateway.Format
import ReplyGateway.Inbound.Form
import ReplyGateway.Json.Document
import ReplyGateway.Json.Reader
import ReplyGateway.Xml.Fields

namespace ReplyGateway.Inbound

/-- What keeps a body from being read. -/
inductive BodyFault
  | xml
  | json
  | notUtf8
  deriving DecidableEq, Repr

def BodyFault.message : BodyFault → String
  | xml => "XML decode error"
  | json => "JSON error"
  | notUtf8 => "Body is not valid UTF-8"

/-- What is in a field of a JSON body. -/
def jsonEntry? : Shape → Json.Document → Option Entry
  | .text, d => d.text?.map .text
  | .looseText, d => d.looseText?.map .text
  | .number, d => d.integer?.map .number

/-- What is in a field of an XML body. -/
def xmlEntry? : Shape → Xml.Node → Option Entry
  | .text, node => node.text?.map .text
  | .looseText, node => node.looseText?.map .text
  | .number, node => (node.text?.bind int64?).map .number

/-- Reads a body as a record with the given names, and what is in its fields with the reader for the
format. -/
def readRecord {α : Type} (names : List String) (fromJson : List (Option Json.Document) → Option α)
    (fromXml : List (Option Xml.Node) → Option α) (format : Format) (body : Bytes) : Except BodyFault α :=
  match format with
  | .json =>
    match Json.Document.ofBytes? body >>= Json.Document.record? names >>= fromJson with
    | some a => .ok a
    | none => .error .json
  | .xml =>
    match Bytes.text? body with
    | none => .error .notUtf8
    | some text =>
      match Xml.rootOf? text.toList >>= Xml.record? names >>= fromXml with
      | some a => .ok a
      | none => .error .xml

/-- The fields of a message body. -/
def decodeForm (format : Format) (body : Bytes) : Except BodyFault Form :=
  readRecord (Field.all.map Field.name) (Form.ofFields? jsonEntry?) (Form.ofFields? xmlEntry?) format body

/-- The message of a body; `none` if its kind is not known. -/
def decodeMessage (format : Format) (body : Bytes) : Except BodyFault (Option Message) :=
  (decodeForm format body).map Form.message?

/-- The envelope around an encrypted message. -/
structure Envelope where
  toUser : String
  encrypted : String
  deriving DecidableEq, Repr

namespace Envelope

def names : List String := ["ToUserName", "Encrypt"]

/-- The envelope of its fields, of which the ciphertext has to be there. -/
def ofFields? {α : Type} (text? : α → Option String) : List (Option α) → Option Envelope
  | [toUser, some encrypted] => do
    let toUser ← match toUser with
      | none => some ""
      | some given => text? given
    return ⟨toUser, ← text? encrypted⟩
  | _ => none

end Envelope

/-- The envelope of a body in either format. -/
def decodeEnvelope (format : Format) (body : Bytes) : Except BodyFault Envelope :=
  readRecord Envelope.names (Envelope.ofFields? Json.Document.text?) (Envelope.ofFields? Xml.Node.text?) format body

end ReplyGateway.Inbound
