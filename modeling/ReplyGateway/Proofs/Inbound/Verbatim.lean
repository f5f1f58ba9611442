import Mathlib
import ReplyGateway.Proofs.Inbound.Decode
import ReplyGateway.Proofs.Xml.Surroundings

namespace ReplyGateway

namespace Xml

/-- Characters are read as a text inside an element, also where other elements may stand beside it. -/
def ReadsAs (content : List Char) (s : String) : Prop :=
  ∃ nodes, Writes content nodes ∧ textOf? nodes = some s ∧ looseTextOf? true "" nodes = some s

/-- Verbatim sections one after the other. -/
def sections (pieces : List (List Char)) : List Char := pieces.flatMap Markup.cdata

theorem writes_sections {pieces : List (List Char)} (free : ∀ piece ∈ pieces, ¬ [']', ']', '>'] <:+: piece) :
    Writes (sections pieces) (if pieces = [] then [] else [.run (pieces.map .verbatim)]) := by
  induction pieces with
  | nil => exact .nil
  | cons piece pieces ih =>
    obtain ⟨first, free⟩ := List.forall_mem_cons.1 free
    have writes := Writes.verbatim first (ih free)
    rw [if_neg (List.cons_ne_nil _ _)]
    cases pieces with
    | nil => exact writes
    | cons second pieces => rwa [if_neg (List.cons_ne_nil _ _)] at writes

/-- Verbatim sections are read as what they hold, with the spaces at their ends. -/
theorem readsAs_sections {pieces : List (List Char)} (free : ∀ piece ∈ pieces, ¬ [']', ']', '>'] <:+: piece) :
    ReadsAs (sections pieces) (String.ofList pieces.flatten) := by
  refine ⟨_, writes_sections free, ?_⟩
  by_cases none : pieces = []
  · subst none
    exact ⟨rfl, rfl⟩
  · rw [if_neg none, textOf?, looseTextOf?, trimRun?_verbatim none]
    dsimp only
    rw [runText?_verbatim]
    exact ⟨rfl, rfl⟩

/-- Text of which only markup is escaped is read without the spaces at its ends. -/
theorem readsAs_escape (cs : List Char) : ReadsAs (escape cs) (String.ofList (trimBoth isSpace cs)) := by
  refine ⟨_, .of_text (escapes_escape cs).notMem, ?_, ?_⟩
  · rw [textOf?_textNodes, trimBoth_escape, unescape_escape]
    rfl
  · rw [looseTextOf?_textNodes, trimBoth_escape, unescape_escape]
    rfl

end Xml

namespace Inbound

namespace Form

/-- A form that is read says of every field what is read there. -/
theorem lookup_of_ofFields? {α : Type} {read? : Shape → α → Option Entry} {given : Field → Option α} {form : Form}
    (read : ofFields? read? (Field.all.map given) = some form) (f : Field) :
    (given f).map (read? f.shape) = (form.lookup f).map some := by
  have each (fields : List Field) (nodup : fields.Nodup) {form : Form}
      (read : ((fields.zip (fields.map given)).filterMap fun field => field.2.map (field.1, ·)).mapM
        (fun field => (read? field.1.shape field.2).map (field.1, ·)) = some form) :
      ∀ f, (if f ∈ fields then (given f).map (read? f.shape) else none) = (form.lookup f).map some := by
    induction fields generalizing form with
    | nil => obtain rfl := Option.some.inj read; simp
    | cons g fields ih =>
      obtain ⟨fresh, nodup⟩ := List.nodup_cons.1 nodup
      intro f
      cases found : given g with
      | none =>
        have rest := ih nodup (by simpa [found] using read) f
        by_cases same : f = g
        · subst same
          rw [if_neg fresh] at rest
          simp [found, ← rest]
        · simp [same, ← rest]
      | some a =>
        simp only [List.map_cons, List.zip_cons_cons, found, Option.map_some, List.filterMap_cons_some, List.mapM_cons,
          Option.bind_eq_bind, Option.bind_eq_some_iff, Option.map_eq_some_iff, Option.pure_def,
          Option.some.injEq] at read
        obtain ⟨p, ⟨entry, readHere, rfl⟩, more, readRest, rfl⟩ := read
        have rest := ih nodup readRest f
        by_cases same : f = g
        · subst same
          simp [found, readHere, List.lookup_cons_self]
        · rw [lookup_cons_of_ne same, ← rest]
          simp [same]
  have all := each Field.all Field.nodup_all read f
  rwa [if_pos f.mem_all] at all

/-- The message of a form carries what the form says, in every field of its kind. -/
theorem mem_form_of_message? {form : Form} {m : Message} (found : form.message? = some m) {f : Field}
    (among : f ∈ m.kind.fields) (isText : f.shape ≠ .number) : (f, .text (form.text f)) ∈ m.form := by
  rw [message?_eq_map, Option.map_eq_some_iff] at found
  obtain ⟨kind, named, rfl⟩ := found
  have name := Kind.name_of_ofName? named
  rw [kind_messageOf] at among
  have carries : (form.messageOf kind).form = kind.fields.map fun g =>
      (g, if g.shape = .number then .number (form.number g) else .text (form.text g)) := by
    rw [Message.form, kind_messageOf, name]
    cases kind <;> rfl
  rw [carries]
  exact List.mem_map.2 ⟨f, among, by rw [if_neg isText]⟩

end Form

/-- Reading a form in XML has three stages: the outermost element, its fields, and what they hold. -/
theorem decodeForm_xml_eq_ok_iff {cs : List Char} {form : Form} :
    decodeForm .xml (Bytes.ofString (String.ofList cs)) = .ok form ↔
      ∃ root fields, Xml.rootOf? cs = some root ∧ Xml.record? (Field.all.map Field.name) root = some fields ∧
        Form.ofFields? xmlEntry? fields = some form := by
  simp only [decodeForm, readRecord, Bytes.text?_ofString, String.toList_ofList]
  constructor
  · intro read
    split at read
    · rename_i found
      obtain ⟨fields, record, given⟩ := Option.bind_eq_some_iff.1 found
      obtain ⟨root, isRoot, record⟩ := Option.bind_eq_some_iff.1 record
      exact ⟨root, fields, isRoot, record, Except.ok.inj read ▸ given⟩
    · cases read
  · rintro ⟨root, fields, isRoot, record, given⟩
    simp only [isRoot, Option.bind_eq_bind, Option.bind_some, record, given]

theorem Field.exists_map_eq {α : Type} {as : List α} (length : as.length = Field.all.length) :
    ∃ given : Field → α, as = Field.all.map given := by
  have inside (f : Field) : Field.all.idxOf f < as.length := length.symm ▸ List.idxOf_lt_length_of_mem f.mem_all
  refine ⟨fun f => as.get ⟨Field.all.idxOf f, inside f⟩, List.ext_getElem (by rw [List.length_map, length]) ?_⟩
  intro i _ _
  simp [Field.nodup_all.idxOf_getElem]

/-- The body of a request in XML from what is before an element, the element and what is after it. -/
def xmlBody (before written after : List Char) : Bytes := Bytes.ofString (String.ofList (before ++ written ++ after))

/-- Between two parts of a body is the place for the element of a field. If it has nothing in it, a form is read. -/
structure IsPlace (f : Field) (tag attributes before after : List Char) (form : Form) : Prop where
  opens : ∃ o, Xml.Opens before o
  plain : Xml.IsPlain tag
  named : Xml.localName tag = f.name.toList
  tail : Xml.IsTail attributes
  hollow : decodeForm .xml (xmlBody before ('<' :: (tag ++ (attributes ++ ['/', '>']))) after) = .ok form

section Place

variable {f : Field} {tag attributes before after content written : List Char} {form : Form} {s : String}

/-- An element that is read when it is empty is read with any text in it. -/
theorem xmlEntry?_of_readsAs (isText : f.shape ≠ .number) {nodes : List Xml.Node} {entry : Entry}
    (hollow : xmlEntry? f.shape (.element tag attributes []) = some entry) (text : Xml.textOf? nodes = some s)
    (looseText : Xml.looseTextOf? true "" nodes = some s) :
    xmlEntry? f.shape (.element tag attributes nodes) = some (.text s) := by
  generalize f.shape = shape at isText hollow
  cases shape with
  | number => exact (isText rfl).elim
  | text =>
    simp only [Xml.Node.text?, xmlEntry?, text, Option.map_some]
  | looseText =>
    simp only [Xml.Node.looseText?, xmlEntry?] at hollow ⊢
    obtain ⟨_, given, _⟩ := Option.map_eq_some_iff.1 hollow
    rw [if_pos (Option.ite_none_right_eq_some.1 given).1, looseText]
    rfl

/-- What the element of a field is read as is what the form says of the field, and all else is as before. -/
theorem IsPlace.decodeForm_eq (place : IsPlace f tag attributes before after form) (isText : f.shape ≠ .number)
    (reads : Xml.ReadsAs content s) (element : Xml.WritesElement tag attributes content written) :
    decodeForm .xml (xmlBody before written after) = .ok (Form.arranged ((f, .text s) :: form)) := by
  obtain ⟨⟨o, opens⟩, plain, named, tail, hollow⟩ := place
  obtain ⟨nodes, writes, text, looseText⟩ := reads
  obtain ⟨root, fields, read, record, given⟩ := decodeForm_xml_eq_ok_iff.1 hollow
  obtain ⟨root', read', swaps⟩ := Xml.rootOf?_of_opens opens plain tail element writes read
  obtain @⟨name, rootAttributes, children, children', swaps⟩ := swaps
  rw [Xml.record?] at record
  obtain ⟨lawful, filled⟩ := Option.ite_none_right_eq_some.1 record
  have position : (Field.all.map Field.name).findIdx? (·.toList == Xml.localName tag) = some (Field.all.idxOf f) :=
    Field.findIdx?_names fun g => by
      rw [named, beq_iff_eq, String.toList_inj]
      exact ⟨Field.name_inj, congrArg Field.name⟩
  have room : Field.all.idxOf f < ((Field.all.map Field.name).map fun _ => (none : Option Xml.Node)).length := by
    rw [List.length_map, List.length_map]
    exact List.idxOf_lt_length_of_mem f.mem_all
  obtain ⟨held, refilled⟩ := swaps.fillFields_eq position room filled
  have length : fields.length = Field.all.length := by
    rw [Xml.length_of_fillFields filled, List.length_map, List.length_map]
  obtain ⟨found, rfl⟩ := Field.exists_map_eq length
  rw [List.getElem?_map, List.getElem?_idxOf f.mem_all, Option.map_some, Option.some.injEq] at held
  have record' : Xml.record? (Field.all.map Field.name) (.element name rootAttributes children') =
      some (Field.all.map (Function.update found f (some (.element tag attributes nodes)))) := by
    rw [Xml.record?, if_pos lawful, refilled, Field.nodup_all.map_update, if_pos f.mem_all]
  have tells := Form.lookup_of_ofFields? given
  obtain ⟨entry, hollow⟩ : ∃ entry, xmlEntry? f.shape (.element tag attributes []) = some entry := by
    have here := tells f
    rw [held, Option.map_some] at here
    obtain ⟨entry, _, same⟩ := Option.map_eq_some_iff.1 here.symm
    exact ⟨entry, same.symm⟩
  refine decodeForm_xml_eq_ok_iff.2 ⟨_, _, read', record', Form.ofFields?_map fun g => ?_⟩
  by_cases same : g = f
  · subst same
    rw [Function.update_self, List.lookup_cons_self, Option.map_some,
      xmlEntry?_of_readsAs isText hollow text looseText]
    rfl
  · rw [Function.update_of_ne same, Form.lookup_cons_of_ne same, tells g]

/-- A body has a text in a field and all else as a form has it, and if its message has the field, it has the text
there. -/
def Delivers (body : Bytes) (f : Field) (s : String) (form : Form) : Prop :=
  ∃ form', decodeForm .xml body = .ok form' ∧
    (∀ g, form'.lookup g = if g = f then some (.text s) else form.lookup g) ∧
    decodeMessage .xml body = .ok form'.message? ∧
    ∀ m, form'.message? = some m → f ∈ m.kind.fields → (f, .text s) ∈ m.form

/-- A field that holds a text gives it to the message, if the message has the field. -/
theorem IsPlace.delivers (place : IsPlace f tag attributes before after form) (isText : f.shape ≠ .number)
    (reads : Xml.ReadsAs content s) (element : Xml.WritesElement tag attributes content written) :
    Delivers (xmlBody before written after) f s form := by
  have read := place.decodeForm_eq isText reads element
  have lookup (g : Field) : (Form.arranged ((f, .text s) :: form)).lookup g =
      if g = f then some (.text s) else form.lookup g := by
    rw [Form.lookup_arranged]
    split
    · rename_i same
      rw [same, List.lookup_cons_self]
    · rename_i other
      exact Form.lookup_cons_of_ne other _ _
  refine ⟨_, read, lookup, by rw [decodeMessage, read]; rfl, fun m found among => ?_⟩
  have text : (Form.arranged ((f, .text s) :: form)).text f = s := by rw [Form.text, lookup, if_pos rfl]
  have carries := Form.mem_form_of_message? found among isText
  rwa [text] at carries

/-- A text in verbatim sections is delivered as it is, however it is cut into them. If only markup is escaped in it, the
spaces at its ends are lost. -/
theorem delivers_verbatim (isText : f.shape ≠ .number) (place : IsPlace f tag attributes before after form) :
    (∀ (s : String) (pieces : List (List Char)), pieces.flatten = s.toList →
        (∀ piece ∈ pieces, ¬ [']', ']', '>'] <:+: piece) → ∀ written,
        Xml.WritesElement tag attributes (Xml.sections pieces) written →
        Delivers (xmlBody before written after) f s form) ∧
      ∀ (s : String) (written : List Char), Xml.WritesElement tag attributes (Xml.escape s.toList) written →
        Delivers (xmlBody before written after) f (String.ofList (trimBoth Xml.isSpace s.toList)) form := by
  refine ⟨fun s pieces cut free written element => ?_, fun s written element => ?_⟩
  · have reads := Xml.readsAs_sections free
    rw [cut, String.ofList_toList] at reads
    exact place.delivers isText reads element
  · exact place.delivers isText (Xml.readsAs_escape s.toList) element

end Place

/-- A text that has to be cut, with spaces at its ends, after a declaration and another field. -/
theorem delivers_verbatim_cut :
    let before := "<?xml version=\"1.0\"?><xml><MsgType>text</MsgType>".toList
    let after := "</xml>".toList
    decodeMessage .xml (xmlBody before "<Content><![CDATA[ a]]]]><![CDATA[>&amp; ]]></Content>".toList after) =
        .ok (some ⟨"", "", 0, .text " a]]>&amp; " 0⟩) ∧
      decodeMessage .xml (xmlBody before "<Content> a]]&gt;&amp;amp; </Content>".toList after) =
        .ok (some ⟨"", "", 0, .text "a]]>&amp;" 0⟩) := by
  intro before after
  let form : Form := [(.msgType, .text "text"), (.content, .text "")]
  have place : IsPlace .content "Content".toList [] before after form := by
    have opens : Xml.Opens before
        ⟨"xml".toList, [], [.element "MsgType".toList [] [.run [.text "text".toList]]], []⟩ := fun rest => by
      have step {stack stack' last : List Xml.Open} {c : Char} {cs rest left : List Char} {piece : Xml.Markup}
          (found : Xml.Markup.next (c :: cs) = some (piece, rest))
          (taken : Xml.Progress.take stack piece = some (.inside stack')) (more : Xml.Leads stack' rest last left) :
          Xml.Leads stack (c :: cs) last left :=
        .next found (Xml.Markup.length_lt_of_next (List.cons_ne_nil _ _) found) taken more
      exact step rfl rfl <| step rfl rfl <| step rfl rfl <| step rfl rfl <| step rfl rfl .here
    refine ⟨⟨_, opens⟩, Field.isPlain_name .content, by decide, .nil, by decide +kernel⟩
  have message {body : Bytes} {s : String} (delivers : Delivers body .content s form) :
      decodeMessage .xml body = .ok (some ⟨"", "", 0, .text s 0⟩) := by
    obtain ⟨form', _, lookup, read, _⟩ := delivers
    have same : form'.message? = Form.message? [(.content, .text s), (.msgType, .text "text")] := by
      refine Form.message?_congr fun g => (lookup g).trans ?_
      cases g <;> rfl
    rw [read, same]
    exact congrArg (fun kind? : Option Kind => Except.ok (kind?.map _)) (Kind.ofName?_name .text)
  obtain ⟨verbatim, escaped⟩ := delivers_verbatim (by decide) place
  have cut : [" a]]".toList, ">&amp; ".toList].flatten = " a]]>&amp; ".toList := by decide
  have free : ∀ piece ∈ [" a]]".toList, ">&amp; ".toList], ¬ [']', ']', '>'] <:+: piece := by decide
  exact ⟨message (verbatim _ _ cut free _ .tags), message (escaped " a]]>&amp; " _ .tags)⟩

end Inbound
end ReplyGateway
