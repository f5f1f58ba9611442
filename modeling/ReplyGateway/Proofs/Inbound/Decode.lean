import Mathlib
import ReplyGateway.Inbound.Decode
import ReplyGateway.Proofs.Inbound.Fields
import ReplyGateway.Proofs.Json.Written
import ReplyGateway.Proofs.Xml.Fields

namespace ReplyGateway.Inbound

namespace Field

theorem nodup_names : (all.map name).Nodup := by decide +kernel

theorem name_inj {f g : Field} (same : f.name = g.name) : f = g :=
  List.inj_on_of_nodup_map nodup_names f.mem_all g.mem_all same

theorem isPlain_name (f : Field) : Xml.IsPlain f.name.toList := by
  cases f <;> simp [name, Xml.IsPlain, Xml.isNameEnd, Xml.isSpace]

theorem localName_name (f : Field) : Xml.localName f.name.toList = f.name.toList := by cases f <;> rfl

/-- A field stands among the names where it stands among the fields. -/
theorem findIdx?_names {p : String → Bool} {f : Field} (only : ∀ g : Field, p g.name = true ↔ g = f) :
    (all.map name).findIdx? p = some (all.idxOf f) := by
  have same : (fun g : Field => p g.name) = (· == f) := funext fun g => by
    rw [Bool.eq_iff_iff, only g, beq_iff_eq]
  rw [List.findIdx?_map, Function.comp_def, same]
  exact List.findIdx?_eq_some_iff_findIdx_eq.2 ⟨List.idxOf_lt_length_of_mem f.mem_all, rfl⟩

end Field

section Json

open Json (Document Quoted.Spells Token.Spells Numeral.ofInt)

/-- The ways to write an entry as a value in JSON. A text that is read loosely may be written as a number. -/
inductive WritesValue : Shape → Entry → Document → Prop
  | text {raw : Bytes} {s : String} : Quoted.Spells raw s.toList → WritesValue .text (.text s) (.string raw)
  | looseText {raw : Bytes} {s : String} : Quoted.Spells raw s.toList → WritesValue .looseText (.text s) (.string raw)
  | looseNumber {n : Int} : -0x8000000000000000 ≤ n → n < 0x10000000000000000 →
      WritesValue .looseText (.text (toString n)) (.number (Numeral.ofInt n))
  | number {n : Int} : isInt64 n = true → WritesValue .number (.number n) (.number (Numeral.ofInt n))

/-- A member of an object that gives a field. -/
def IsMember (field : Field) (entry : Entry) (member : Bytes × Document) : Prop :=
  Quoted.Spells member.1 field.name.toList ∧ WritesValue field.shape entry member.2

/-- A member of an object with the name of no field. -/
def IsOtherMember (member : Bytes × Document) : Prop :=
  ∃ name : String, Quoted.Spells member.1 name.toList ∧ name ∉ Field.all.map Field.name

/-- The ways to write a form as a JSON object. -/
def WritesObject (form : Form) (body : Bytes) : Prop :=
  ∃ members, Interleaves IsMember IsOtherMember form members ∧ Token.Spells body (Document.tokens (.object members))

theorem WritesValue.fits {shape : Shape} {entry : Entry} {d : Document} (writes : WritesValue shape entry d) :
    entry.Fits shape := by
  cases writes with
  | text | looseText | looseNumber => exact Shape.noConfusion
  | number small => exact ⟨rfl, small⟩

/-- However an entry is written in JSON, it is read back. -/
theorem WritesValue.jsonEntry?_eq {shape : Shape} {entry : Entry} {d : Document}
    (writes : WritesValue shape entry d) : jsonEntry? shape d = some entry := by
  have decode {raw : Bytes} {s : String} (spells : Quoted.Spells raw s.toList) : Json.Quoted.decode raw = some s := by
    rw [spells.decode_eq, String.ofList_toList]
  cases writes with
  | text spells => simp [decode spells, jsonEntry?, Json.Document.text?, Json.Tree.string?]
  | looseText spells => simp [decode spells, jsonEntry?, Json.Document.looseText?]
  | looseNumber low high =>
    simp [Json.Numeral.value?_ofInt low high, jsonEntry?, Json.Document.looseText?, Json.Number.text]
  | number small =>
    have bounds := small
    simp only [isInt64, Bool.and_eq_true, decide_eq_true_eq] at bounds
    have value := Json.Numeral.value?_ofInt bounds.1 (by omega)
    simp [value, small, jsonEntry?, Json.Document.integer?]

/-- The reader of objects puts members into the fields of their names. -/
theorem fills_members : Fills (Json.Tree.fillFields Json.Quoted.decode (Field.all.map Field.name)) jsonEntry? IsMember
    IsOtherMember where
  nil fields := rfl
  other := by
    rintro fields ⟨raw, d⟩ rest ⟨name, spells, unknown⟩
    have position : Json.Tree.position? (Field.all.map Field.name) name = none := by
      rw [Json.Tree.position?, List.findIdx?_eq_none_iff]
      exact fun s mem => beq_eq_false_iff_ne.2 fun same => unknown (same ▸ mem)
    simp only [Json.Tree.fillFields, spells.decode_eq, String.ofList_toList, position]
  known := by
    rintro field entry ⟨raw, d⟩ ⟨spells, writes⟩
    refine ⟨d, writes.jsonEntry?_eq, fun fields rest free => ?_⟩
    have position : Json.Tree.position? (Field.all.map Field.name) field.name = some (Field.all.idxOf field) :=
      Field.findIdx?_names fun g => by rw [beq_iff_eq]; exact ⟨Field.name_inj, congrArg Field.name⟩
    simp only [Json.Tree.fillFields, spells.decode_eq, String.ofList_toList, position, free, Option.isSome_none]
    rfl

theorem WritesObject.isFitting {form : Form} {body : Bytes} (writes : WritesObject form body) : form.IsFitting := by
  obtain ⟨members, interleaves, _⟩ := writes
  exact interleaves.forall_mem fun _ _ _ isMember => isMember.2.fits

/-- A form that is written as an object is read back, in the order of the fields. -/
theorem decodeForm_of_writesObject {form : Form} (once : form.IsOnce) {body : Bytes} (writes : WritesObject form body) :
    decodeForm .json body = .ok form.arranged := by
  obtain ⟨members, interleaves, spells⟩ := writes
  have read := fills_members.bind_ofFields? interleaves once
  have filled : Document.record? (Field.all.map Field.name) (.object members) =
      Json.Tree.fillFields Json.Quoted.decode (Field.all.map Field.name) (Field.all.map fun _ => none) members := by
    simp only [Json.Document.record?, Json.Tree.record?, List.map_map]
    rfl
  simp only [decodeForm, readRecord, Json.Document.ofBytes?_eq spells, Option.bind_eq_bind, Option.bind_some, filled,
    read]

end Json

section Xml

open Xml (Node)

/-- The text of an entry in XML. -/
def Entry.xmlText : Entry → String
  | .text s => s
  | .number n => toString n

/-- An element that gives a field: its text has entities for what begins markup, and no spaces at its ends. -/
def IsChild (field : Field) (entry : Entry) (node : Node) : Prop :=
  ∃ name attributes raw, node = .element name attributes (Xml.textNodes raw) ∧
    Xml.localName name = field.name.toList ∧ Xml.AreLawful attributes ∧ entry.Fits field.shape ∧
    Xml.Escapes raw entry.xmlText.toList ∧ trimBoth Xml.isSpace raw = raw

/-- An element with the name of no field, or text beside the elements. -/
inductive IsOtherChild : Node → Prop
  | run {pieces : List Xml.Piece} : (∀ piece ∈ pieces, piece.IsEscaped) → IsOtherChild (.run pieces)
  | element {name attributes : List Char} {children : List Node} :
      (∀ f : Field, Xml.localName name ≠ f.name.toList) → Xml.AreLawful attributes → Xml.Sound children →
      IsOtherChild (.element name attributes children)

/-- The ways to write a form as an XML element, with anything after it. -/
def WritesRoot (form : Form) (body : Bytes) : Prop :=
  ∃ name attributes content written nodes rest, Xml.IsPlain name ∧ Xml.IsTail attributes ∧ Xml.AreLawful attributes ∧
    Xml.WritesElement name attributes content written ∧ Xml.Writes content nodes ∧
    Interleaves IsChild IsOtherChild form nodes ∧ body = Bytes.ofString (String.ofList (written ++ rest))

theorem isChild_escape {field : Field} {entry : Entry} (fits : entry.Fits field.shape)
    (trimmed : trimBoth Xml.isSpace entry.xmlText.toList = entry.xmlText.toList) :
    IsChild field entry (.element field.name.toList [] (Xml.textNodes (Xml.escape entry.xmlText.toList))) :=
  ⟨_, _, _, rfl, field.localName_name, .nil, fits, Xml.escapes_escape _, by rw [Xml.trimBoth_escape, trimmed]⟩

/-- What the element of a field holds is read back. -/
theorem xmlEntry?_of_isChild {field : Field} {entry : Entry} {node : Node} (child : IsChild field entry node) :
    xmlEntry? field.shape node = some entry := by
  obtain ⟨name, attributes, raw, rfl, _, lawful, fits, escapes, trimmed⟩ := child
  have unescaped : Xml.unescape (trimBoth Xml.isSpace raw) = some entry.xmlText.toList := by
    rw [trimmed, escapes.unescape_eq]
  have text : (Node.element name attributes (Xml.textNodes raw)).text? = some entry.xmlText := by
    rw [Xml.Node.text?, Xml.textOf?_textNodes, unescaped, Option.map_some, String.ofList_toList]
  have looseText : (Node.element name attributes (Xml.textNodes raw)).looseText? = some entry.xmlText := by
    rw [Xml.Node.looseText?, if_pos lawful.1, Xml.looseTextOf?_textNodes, unescaped, Option.map_some,
      String.ofList_toList]
  generalize field.shape = shape at fits
  cases entry with
  | text s =>
    cases shape with
    | text => simp [text, xmlEntry?, Entry.xmlText]
    | looseText => simp [looseText, xmlEntry?, Entry.xmlText]
    | number => exact (fits rfl).elim
  | number n =>
    obtain ⟨rfl, small⟩ := fits
    have read : (Node.element name attributes (Xml.textNodes raw)).text?.bind int64? = some n := by
      rw [text, Option.bind_some, Entry.xmlText, int64?_toString small]
    simp [read, xmlEntry?]

/-- The reader of elements puts them into the fields of their names, and passes over all others. -/
theorem fills_children : Fills (Xml.fillFields (Field.all.map Field.name)) xmlEntry? IsChild IsOtherChild where
  nil fields := by rw [Xml.fillFields]
  other := by
    rintro fields node rest (escaped | @⟨name, attributes, children, unknown, lawful, sound⟩)
    · rw [Xml.fillFields, if_pos (Xml.isReadableRun_of_escaped escaped)]
    · have position : (Field.all.map Field.name).findIdx? (·.toList == Xml.localName name) = none := by
        rw [List.findIdx?_eq_none_iff]
        intro s mem
        obtain ⟨f, _, rfl⟩ := List.mem_map.1 mem
        exact beq_eq_false_iff_ne.2 (Ne.symm (unknown f))
      rw [Xml.fillFields, position]
      simp [lawful.2, sound.passOver_isSome]
  known := by
    rintro field entry node child
    refine ⟨node, xmlEntry?_of_isChild child, fun fields rest free => ?_⟩
    obtain ⟨name, attributes, raw, rfl, named, lawful, _⟩ := child
    have position : (Field.all.map Field.name).findIdx? (·.toList == Xml.localName name) =
        some (Field.all.idxOf field) := Field.findIdx?_names fun g => by
      rw [named, beq_iff_eq, String.toList_inj]
      exact ⟨Field.name_inj, congrArg Field.name⟩
    rw [Xml.fillFields, position]
    simp only [lawful.2, Bool.not_true, Bool.false_eq_true, if_false, free, Option.isSome_none]

/-- A form that is written as an element is read back, in the order of the fields. -/
theorem decodeForm_of_writesRoot {form : Form} (once : form.IsOnce) {body : Bytes} (writes : WritesRoot form body) :
    decodeForm .xml body = .ok form.arranged := by
  obtain ⟨name, attributes, content, written, nodes, rest, plain, tail, lawful, element, inside, interleaves, rfl⟩ :=
    writes
  have root := Xml.rootOf?_of_writes plain tail element inside rest
  have read := fills_children.bind_ofFields? interleaves once
  have filled : Xml.record? (Field.all.map Field.name) (.element name attributes nodes) =
      Xml.fillFields (Field.all.map Field.name) (Field.all.map fun _ => none) nodes := by
    rw [Xml.record?, if_pos (by simp [lawful.1, lawful.2]), List.map_map]
    rfl
  simp only [decodeForm, readRecord, Bytes.text?_ofString, String.toList_ofList, root, Option.bind_eq_bind,
    Option.bind_some, filled, read]

end Xml

theorem decodeMessage_eq_ok {format : Format} {body : Bytes} {form : Form}
    (read : decodeForm format body = .ok form.arranged) : decodeMessage format body = .ok form.message? := by
  rw [decodeMessage, read, ← form.message?_arranged]
  rfl

/-- A form is read as the same message in both formats, whatever the order of its fields and whatever is between them.
There is no message if `MsgType` is missing or names no kind. Else the message is the only one that carries, in the
fields of its kind, what the form gives, and in each of them that is not given an empty text or zero. -/
theorem decodeMessage_of_writes {form form' : Form} (once : form.IsOnce) (same : form.Perm form') {json xml : Bytes}
    (object : WritesObject form json) (root : WritesRoot form' xml) :
    ∃ decoded : Option Message, decodeMessage .json json = .ok decoded ∧ decodeMessage .xml xml = .ok decoded ∧
      (decoded = none ↔ ∀ kind : Kind, form.lookup .msgType ≠ some (.text kind.name)) ∧
      ∀ m, decoded = some m ↔ m.form = m.kind.fields.map fun f => (f, (form.lookup f).getD f.blank) := by
  have once' : form'.IsOnce := (same.map Prod.fst).nodup_iff.1 once
  have fromXml := decodeMessage_eq_ok (decodeForm_of_writesRoot once' root)
  rw [← Form.message?_congr (once.lookup_eq_of_perm same)] at fromXml
  exact ⟨form.message?, decodeMessage_eq_ok (decodeForm_of_writesObject once object), fromXml,
    Form.message?_eq_none_iff once object.isFitting, fun m => Form.message?_eq_some_iff once object.isFitting⟩

/-- A place with a number for its latitude, which is a text in XML, and with a field of another kind and of none. -/
theorem decodeMessage_of_writes_location :
    let json := Bytes.ofString
      "\x7b\"MsgType\":\"location\",\"Extra\":[null],\"Location_X\":23,\"Label\":\"a<b\",\"Content\":\"c\"\x7d"
    let xml := Bytes.ofString ("<xml><Label>a&lt;b</Label> <Content>c</Content><Extra><MsgType/></Extra>" ++
      "<Location_X>23</Location_X><MsgType>location</MsgType></xml>")
    let m : Message := ⟨"", "", 0, .location "23" "" "" "a<b" 0⟩
    decodeMessage .json json = .ok (some m) ∧ decodeMessage .xml xml = .ok (some m) := by
  intro json xml m
  let form : Form := [(.msgType, .text "location"), (.locationX, .text (toString (23 : Int))), (.label, .text "a<b"),
    (.content, .text "c")]
  have object : WritesObject form json := by
    let v : Json.Value := .object [("MsgType", .string "location"), ("Extra", .array [.null]),
      ("Location_X", .number (.integer 23)), ("Label", .string "a<b"), ("Content", .string "c")]
    have text : json = Bytes.ofString v.text := by decide +kernel
    have spelled (s : String) := Json.Quoted.spells_written s
    refine ⟨_, ?_, text ▸ v.spells_text rfl⟩
    exact .known ⟨spelled _, .text (spelled _)⟩ <| .other ⟨"Extra", spelled _, by decide⟩ <|
      .known ⟨spelled _, .looseNumber (by decide) (by decide)⟩ <| .known ⟨spelled _, .text (spelled _)⟩ <|
      .known ⟨spelled _, .text (spelled _)⟩ .nil
  have root : WritesRoot [form[2], form[3], form[1], form[0]] xml := by
    have plain : Xml.IsPlain "xml".toList ∧ Xml.IsPlain "Extra".toList := by
      simp [Xml.IsPlain, Xml.isNameEnd, Xml.isSpace]
    have last := Xml.Writes.append_escape (Field.isPlain_name .locationX) "23".toList <|
      .append_escape (Field.isPlain_name .msgType) "location".toList .nil
    have extra := Xml.Writes.element plain.2 .nil (Xml.writesElement_writeElement ..)
      (.append_escape (Field.isPlain_name .msgType) [] .nil) last
    have rest := extra.append_escape (Field.isPlain_name .content) "c".toList
    have blank := Xml.Writes.text (by decide : " ".toList ≠ []) (by decide)
      (by simp [(Xml.writesElement_writeElement ..).head?_append]) rest
    have inside := blank.append_escape (Field.isPlain_name .label) "a<b".toList
    refine ⟨"xml".toList, [], _, _, _, [], plain.1, .nil, .nil, Xml.writesElement_writeElement .., inside, ?_,
      by decide +kernel⟩
    have escaped : ∀ piece ∈ [Xml.Piece.text " ".toList], piece.IsEscaped :=
      fun piece mem => List.mem_singleton.1 mem ▸ ⟨_, Xml.escapes_escape " ".toList⟩
    exact .known (isChild_escape (by decide) (by decide)) <| .other (.run escaped) <|
      .known (isChild_escape (by decide) (by decide)) <|
      .other (.element (by rintro ⟨⟩ <;> decide) .nil (.element .nil .nil .nil)) <|
      .known (isChild_escape (by decide) (by decide)) <| .known (isChild_escape (by decide) (by decide)) .nil
  obtain ⟨decoded, fromJson, fromXml, _, only⟩ := decodeMessage_of_writes (by decide) (by decide) object root
  obtain rfl := (only m).2 (by decide +kernel)
  exact ⟨fromJson, fromXml⟩

end ReplyGateway.Inbound
