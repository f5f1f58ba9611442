import Mathlib
import ReplyGateway.Proofs.Inbound.Decode
import ReplyGateway.Proofs.Reply.Passive

namespace ReplyGateway

namespace Xml

/-- Whether there is a space at neither end. -/
def IsTrimmed (s : String) : Prop :=
  (∀ c ∈ s.toList.head?, isSpace c = false) ∧ ∀ c ∈ s.toList.getLast?, isSpace c = false

theorem dropWhile_of_head? {p : Char → Bool} {cs : List Char} (first : ∀ c ∈ cs.head?, p c = false) :
    cs.dropWhile p = cs := by
  cases cs with
  | nil => rfl
  | cons c rest =>
    have solid : p c = false := first c rfl
    exact List.dropWhile_cons_of_neg (by simp [solid])

theorem IsTrimmed.trimBoth_eq {s : String} (trimmed : IsTrimmed s) : trimBoth isSpace s.toList = s.toList := by
  have last : ∀ c ∈ s.toList.reverse.head?, isSpace c = false := by
    rw [List.head?_reverse]
    exact trimmed.2
  rw [trimBoth, dropWhile_of_head? trimmed.1, dropWhile_of_head? last, List.reverse_reverse]

theorem escape_eq_self {cs : List Char} (plain : ∀ c ∈ cs, c ≠ '<' ∧ c ≠ '>' ∧ c ≠ '&') : escape cs = cs := by
  induction cs with
  | nil => rfl
  | cons c cs ih =>
    have first : escapeChar c = [c] := by
      obtain ⟨opens, closes, refers⟩ := plain c (.head _)
      rw [escapeChar, if_neg opens, if_neg closes, if_neg refers]
    have rest := ih fun d mem => plain d (.tail _ mem)
    rw [escape] at rest
    rw [escape, List.flatMap_cons, first, rest, List.singleton_append]

end Xml

theorem isDigit_or_minus_of_mem_toString {n : Int} {c : Char} (mem : c ∈ (toString n).toList) :
    c.isDigit = true ∨ c = '-' := by
  rw [toList_toString, List.mem_append] at mem
  rcases mem with sign | digit
  · split at sign
    · exact .inr (List.mem_singleton.1 sign)
    · cases sign
  · exact .inl (isDigit_of_mem_toDigits digit)

namespace Inbound

/-- An entry as a part of a reply. -/
def Entry.part : Entry → Reply.Part
  | .text s => .text s
  | .number n => .number n

theorem Entry.escape_xmlText_number (n : Int) : Xml.escape (toString n).toList = (toString n).toList := by
  refine Xml.escape_eq_self fun c mem => ?_
  rcases isDigit_or_minus_of_mem_toString mem with digit | rfl
  · refine ⟨?_, ?_, ?_⟩ <;> rintro rfl <;> cases digit
  · decide

theorem Entry.writeXml_part (entry : Entry) : entry.part.writeXml = Xml.escape entry.xmlText.toList := by
  cases entry with
  | text s => rfl
  | number n => exact (escape_xmlText_number n).symm

/-- A number has no spaces that could be lost. -/
theorem Entry.trimBoth_number (n : Int) : trimBoth Xml.isSpace (toString n).toList = (toString n).toList := by
  refine trimBoth_of_forall fun c mem => ?_
  rcases isDigit_or_minus_of_mem_toString mem with digit | rfl
  · cases space : Xml.isSpace c with
    | false => rfl
    | true =>
      simp only [Xml.isSpace, Bool.or_eq_true, decide_eq_true_eq] at space
      rcases space with ((rfl | rfl) | rfl) | rfl <;> cases digit
  · rfl

/-- The document that an entry is written as in JSON. -/
def Entry.document : Entry → Json.Document
  | .text s => .string (Json.Quoted.written s)
  | .number n => .number (.ofInt n)

theorem Entry.writesValue_document {entry : Entry} {shape : Shape} (fits : entry.Fits shape) :
    WritesValue shape entry entry.document := by
  cases entry with
  | text s =>
    have spells := Json.Quoted.spells_written s
    cases shape with
    | text => exact .text spells
    | looseText => exact .looseText spells
    | number => exact (fits rfl).elim
  | number n =>
    obtain ⟨rfl, small⟩ := fits
    exact .number small

namespace Form

/-- A form as the parts of a reply. -/
def parts (form : Form) : List (String × Reply.Part) := form.map fun (f, entry) => (f.name, entry.part)

theorem isFitting_cons {f : Field} {entry : Entry} {form : Form} (fitting : IsFitting ((f, entry) :: form)) :
    entry.Fits f.shape ∧ form.IsFitting := List.forall_mem_cons.1 fitting

section Json

/-- The members of the object that a form is written as. -/
def members (form : Form) : List (Bytes × Json.Document) :=
  form.map fun (f, entry) => (Json.Quoted.written f.name, entry.document)

theorem memberDocuments?_parts (form : Form) :
    Json.Value.memberDocuments? (form.parts.map fun (name, part) => (name, part.toValue)) = some form.members := by
  induction form with
  | nil => rfl
  | cons p form ih =>
    obtain ⟨f, entry⟩ := p
    have first : entry.part.toValue.document? = some entry.document := by cases entry <;> rfl
    simp only [parts, List.map_cons] at ih ⊢
    rw [Json.Value.memberDocuments?, first, ih]
    rfl

theorem interleaves_members {form : Form} (fitting : form.IsFitting) :
    Interleaves IsMember IsOtherMember form form.members := by
  induction form with
  | nil => exact .nil
  | cons p form ih =>
    obtain ⟨f, entry⟩ := p
    obtain ⟨fits, fitting⟩ := isFitting_cons fitting
    exact .known ⟨Json.Quoted.spells_written f.name, Entry.writesValue_document fits⟩ (ih fitting)

/-- The parts of a passive reply that go by the names of fields are the writing of a form in JSON. -/
theorem writesObject_writeJson {form : Form} (fitting : form.IsFitting) :
    WritesObject form (Bytes.ofString (String.ofList (Reply.writeJson form.parts))) := by
  have written : Json.Value.document? (.object (form.parts.map fun (name, part) => (name, part.toValue))) =
      some (.object form.members) := by
    rw [Json.Value.document?, memberDocuments?_parts, Option.map_some]
  exact ⟨form.members, interleaves_members fitting, Json.Value.spells_text _ written⟩

end Json

section Xml

/-- The elements that a form is written as. -/
def nodes (form : Form) : List Xml.Node :=
  form.map fun (f, entry) => .element f.name.toList [] (Xml.textNodes (Xml.escape entry.xmlText.toList))

theorem writes_nodes (form : Form) :
    Xml.Writes (form.parts.flatMap fun (name, part) => Xml.writeElement name.toList part.writeXml) form.nodes := by
  induction form with
  | nil => exact .nil
  | cons p form ih =>
    obtain ⟨f, entry⟩ := p
    have element := Xml.Writes.append_escape f.isPlain_name entry.xmlText.toList ih
    change Xml.Writes (Xml.writeElement f.name.toList entry.part.writeXml ++ _) _
    rw [entry.writeXml_part]
    exact element

/-- Whether no text of a form has spaces at its ends, which do not count in XML. -/
def IsTrimmed (form : Form) : Prop :=
  ∀ p ∈ form, trimBoth Xml.isSpace p.2.xmlText.toList = p.2.xmlText.toList

theorem interleaves_nodes {form : Form} (fitting : form.IsFitting) (trimmed : form.IsTrimmed) :
    Interleaves IsChild IsOtherChild form form.nodes := by
  induction form with
  | nil => exact .nil
  | cons p form ih =>
    obtain ⟨f, entry⟩ := p
    obtain ⟨fits, fitting⟩ := isFitting_cons fitting
    obtain ⟨first, trimmed⟩ := List.forall_mem_cons.1 trimmed
    exact .known (isChild_escape fits first) (ih fitting trimmed)

/-- They are so in XML, if no text has spaces at its ends. -/
theorem writesRoot_writeXml {form : Form} (fitting : form.IsFitting) (trimmed : form.IsTrimmed) :
    WritesRoot form (Bytes.ofString (String.ofList (Reply.writeXml form.parts))) := by
  have plain := Reply.isPlain_of_mem_passiveNames "xml" (by decide)
  refine ⟨"xml".toList, [], _, _, form.nodes, [], plain, .nil, .nil, Xml.writesElement_writeElement ..,
    form.writes_nodes, interleaves_nodes fitting trimmed, ?_⟩
  rw [List.append_nil]
  rfl

end Xml

end Form

/-- What a text reply says, as a form. -/
def textForm (address : Reply.Address) (content : String) : Form :=
  [(.toUserName, .text address.toUser), (.fromUserName, .text address.fromUser),
    (.createTime, .number address.createTime), (.msgType, .text "text"), (.content, .text content)]

theorem passiveParts?_text (address : Reply.Address) (content : String) :
    (Reply.text content).passiveParts? address = some (textForm address content).parts := rfl

theorem isFitting_textForm {address : Reply.Address} (fits : isInt64 address.createTime = true) (content : String) :
    (textForm address content).IsFitting := by
  have text (s : String) {f : Field} (shape : f.shape = .text) : (Entry.text s).Fits f.shape := by
    rw [shape]
    exact Shape.noConfusion
  simp only [Form.IsFitting, textForm, List.forall_mem_cons, List.not_mem_nil, false_implies, implies_true, and_true]
  exact ⟨text _ rfl, text _ rfl, ⟨rfl, fits⟩, text _ rfl, text _ rfl⟩

theorem message?_textForm (address : Reply.Address) (content : String) :
    (textForm address content).message? =
      some ⟨address.toUser, address.fromUser, address.createTime, .text content 0⟩ := by
  have kind : Kind.ofName? ((textForm address content).text .msgType) = some .text := Kind.ofName?_name .text
  rw [Form.message?, kind]
  rfl

/-- In XML the spaces at the ends of a text are lost, and so a text must not have any there. All other characters are
kept, and also those that begin markup or end a quotation. -/
theorem decodeMessage_passiveText? {format : Format} {toUser fromUser content : String} {createTime : Int}
    (fits : isInt64 createTime = true)
    (trimmed : format = .xml → Xml.IsTrimmed toUser ∧ Xml.IsTrimmed fromUser ∧ Xml.IsTrimmed content) :
    ∃ body, (Reply.text content).passiveText? format ⟨toUser, fromUser, createTime⟩ = some body ∧
      decodeMessage format (Bytes.ofString body) = .ok (some ⟨toUser, fromUser, createTime, .text content 0⟩) := by
  let form := textForm ⟨toUser, fromUser, createTime⟩ content
  have once : form.IsOnce := by simp [form, Form.IsOnce, textForm]
  have fitting : form.IsFitting := isFitting_textForm fits content
  have message : form.message? = some ⟨toUser, fromUser, createTime, .text content 0⟩ := message?_textForm ..
  rw [Reply.passiveText?, passiveParts?_text, Option.map_some]
  refine ⟨_, rfl, ?_⟩
  cases format with
  | json =>
    have read := decodeForm_of_writesObject once (Form.writesObject_writeJson fitting)
    rw [← message]
    exact decodeMessage_eq_ok read
  | xml =>
    obtain ⟨toUserTrimmed, fromUserTrimmed, contentTrimmed⟩ := trimmed rfl
    have kind : Xml.IsTrimmed "text" := by simp [Xml.IsTrimmed, Xml.isSpace]
    have ends : form.IsTrimmed := by
      simp only [Form.IsTrimmed, form, textForm, List.forall_mem_cons, List.not_mem_nil, false_implies, implies_true,
        and_true]
      exact ⟨toUserTrimmed.trimBoth_eq, fromUserTrimmed.trimBoth_eq, Entry.trimBoth_number createTime, kind.trimBoth_eq,
        contentTrimmed.trimBoth_eq⟩
    have read := decodeForm_of_writesRoot once (Form.writesRoot_writeXml fitting ends)
    rw [← message]
    exact decodeMessage_eq_ok read

/-- Markup, an entity, quotes and the end of a section in XML, and spaces at both ends in JSON. -/
theorem decodeMessage_passiveText?_markup :
    (∃ body, (Reply.text "<a>&lt;\"'</a> ]]>").passiveText? .xml ⟨"", "o&'\"1", -9223372036854775808⟩ = some body ∧
      decodeMessage .xml (Bytes.ofString body) =
        .ok (some ⟨"", "o&'\"1", -9223372036854775808, .text "<a>&lt;\"'</a> ]]>" 0⟩)) ∧
      ∃ body, (Reply.text " \n").passiveText? .json ⟨"", "", 9223372036854775807⟩ = some body ∧
        decodeMessage .json (Bytes.ofString body) = .ok (some ⟨"", "", 9223372036854775807, .text " \n" 0⟩) := by
  have trimmed : Xml.IsTrimmed "" ∧ Xml.IsTrimmed "o&'\"1" ∧ Xml.IsTrimmed "<a>&lt;\"'</a> ]]>" := by
    simp [Xml.IsTrimmed, Xml.isSpace]
  have other : Format.json ≠ .xml := by decide
  refine ⟨decodeMessage_passiveText? (by decide) fun _ => trimmed, decodeMessage_passiveText? (by decide) ?_⟩
  exact fun same => absurd same other

end Inbound
end ReplyGateway
