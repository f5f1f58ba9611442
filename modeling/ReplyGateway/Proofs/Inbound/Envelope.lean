import Mathlib
import ReplyGateway.Inbound.Decode
import ReplyGateway.Proofs.Json.Written
import ReplyGateway.Proofs.Xml.Text

namespace ReplyGateway.Inbound

namespace Envelope

def toValue (e : Envelope) : Json.Value :=
  .object [("ToUserName", .string e.toUser), ("Encrypt", .string e.encrypted)]

/-- The document with two texts that are written already. -/
def xmlDocument (toUser encrypted : List Char) : List Char :=
  Xml.writeElement "xml".toList
    (Xml.writeElement "ToUserName".toList toUser ++ Xml.writeElement "Encrypt".toList encrypted)

/-- The body of a request, with the texts escaped. -/
def write (e : Envelope) : Format → Bytes
  | .json => Bytes.ofString e.toValue.text
  | .xml =>
    Bytes.ofString (String.ofList (xmlDocument (Xml.escape e.toUser.toList) (Xml.escape e.encrypted.toList)))

/-- The body of a request in XML, with the texts in verbatim sections. -/
def writeVerbatim (e : Envelope) : Bytes :=
  Bytes.ofString
    (String.ofList (xmlDocument (Xml.Markup.cdata e.toUser.toList) (Xml.Markup.cdata e.encrypted.toList)))

theorem isPlain_names :
    Xml.IsPlain "xml".toList ∧ Xml.IsPlain "ToUserName".toList ∧ Xml.IsPlain "Encrypt".toList := by
  simp [Xml.IsPlain, Xml.isNameEnd, Xml.isSpace]

theorem record?_xml (toUser encrypted : List Xml.Node) :
    Xml.record? names (.element "xml".toList []
      [.element "ToUserName".toList [] toUser, .element "Encrypt".toList [] encrypted]) =
      some [some (.element "ToUserName".toList [] toUser), some (.element "Encrypt".toList [] encrypted)] := rfl

/-- Whatever the two elements are written with, the texts that are read in them are those of the envelope. -/
theorem decodeEnvelope_xmlDocument {toUser encrypted : List Char} {toUserNodes encryptedNodes : List Xml.Node}
    (first : Xml.Writes toUser toUserNodes) (second : Xml.Writes encrypted encryptedNodes) {e : Envelope}
    (readFirst : Xml.Node.text? (.element "ToUserName".toList [] toUserNodes) = some e.toUser)
    (readSecond : Xml.Node.text? (.element "Encrypt".toList [] encryptedNodes) = some e.encrypted) :
    decodeEnvelope .xml (Bytes.ofString (String.ofList (xmlDocument toUser encrypted))) = .ok e := by
  have children : Xml.Writes
      (Xml.writeElement "ToUserName".toList toUser ++ Xml.writeElement "Encrypt".toList encrypted)
      [.element "ToUserName".toList [] toUserNodes, .element "Encrypt".toList [] encryptedNodes] := by
    have last := Xml.Writes.element isPlain_names.2.2 .nil (Xml.writesElement_writeElement ..) second .nil
    rw [List.append_nil] at last
    exact .element isPlain_names.2.1 .nil (Xml.writesElement_writeElement ..) first last
  have root := Xml.rootOf?_of_writes isPlain_names.1 .nil (Xml.writesElement_writeElement ..) children []
  rw [List.append_nil] at root
  simp only [decodeEnvelope, readRecord, Bytes.text?_ofString, String.toList_ofList, xmlDocument, root,
    Option.bind_eq_bind, Option.bind_some, record?_xml, ofFields?, readFirst, readSecond]
  rfl

theorem decodeEnvelope_write_json (e : Envelope) : decodeEnvelope .json (e.write .json) = .ok e := by
  have read : Json.Document.ofBytes? (Bytes.ofString e.toValue.text) = some (.object
      [(Json.Quoted.written "ToUserName", .string (Json.Quoted.written e.toUser)),
        (Json.Quoted.written "Encrypt", .string (Json.Quoted.written e.encrypted))]) :=
    Json.Value.ofString?_text e.toValue rfl
  have fields : Json.Document.record? names (.object
      [(Json.Quoted.written "ToUserName", .string (Json.Quoted.written e.toUser)),
        (Json.Quoted.written "Encrypt", .string (Json.Quoted.written e.encrypted))]) =
      some [some (.string (Json.Quoted.written e.toUser)), some (.string (Json.Quoted.written e.encrypted))] := by
    have first : Json.Tree.position? names "ToUserName" = some 0 := by decide
    have second : Json.Tree.position? names "Encrypt" = some 1 := by decide
    simp only [Json.Document.record?, Json.Tree.record?, Json.Tree.fillFields, Json.Quoted.decode_written, first,
      second]
    rfl
  have text (s : String) : Json.Document.text? (.string (Json.Quoted.written s)) = some s :=
    Json.Quoted.decode_written s
  simp only [decodeEnvelope, readRecord, write, read, Option.bind_eq_bind, Option.bind_some, fields, ofFields?, text]
  rfl

/-- In XML, spaces at the ends of a text are lost. -/
theorem decodeEnvelope_write_xml (e : Envelope) (unspaced : ∀ c ∈ e.encrypted.toList, Xml.isSpace c = false) :
    decodeEnvelope .xml (e.write .xml) =
      .ok ⟨String.ofList (trimBoth Xml.isSpace e.toUser.toList), e.encrypted⟩ := by
  have escaped (cs : List Char) := Xml.Writes.of_text (Xml.escapes_escape cs).notMem
  refine decodeEnvelope_xmlDocument (escaped _) (escaped _) (Xml.text?_textNodes_escape ..) ?_
  rw [Xml.text?_textNodes_escape, trimBoth_of_forall unspaced, String.ofList_toList]

/-- Whoever the message is for, the ciphertext in the envelope is found. -/
theorem decodeEnvelope_write (e : Envelope) (unspaced : ∀ c ∈ e.encrypted.toList, Xml.isSpace c = false)
    (format : Format) : ∃ toUser, decodeEnvelope format (e.write format) = .ok ⟨toUser, e.encrypted⟩ := by
  cases format with
  | json => exact ⟨e.toUser, e.decodeEnvelope_write_json⟩
  | xml => exact ⟨_, e.decodeEnvelope_write_xml unspaced⟩

/-- Verbatim sections keep both texts as they are. -/
theorem decodeEnvelope_writeVerbatim (e : Envelope) (toUser : ¬ [']', ']', '>'] <:+: e.toUser.toList)
    (encrypted : ¬ [']', ']', '>'] <:+: e.encrypted.toList) : decodeEnvelope .xml e.writeVerbatim = .ok e := by
  have writes {cs : List Char} (free : ¬ [']', ']', '>'] <:+: cs) :
      Xml.Writes (Xml.Markup.cdata cs) [.run ([cs].map .verbatim)] := by
    have section' := Xml.Writes.verbatim free .nil
    rwa [List.append_nil] at section'
  refine decodeEnvelope_xmlDocument (writes toUser) (writes encrypted) ?_ ?_
  · rw [Xml.text?_verbatim _ _ (List.cons_ne_nil _ _)]
    simp
  · rw [Xml.text?_verbatim _ _ (List.cons_ne_nil _ _)]
    simp

end Envelope

end ReplyGateway.Inbound
