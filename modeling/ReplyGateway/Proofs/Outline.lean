import Mathlib
import ReplyGateway.Proofs.Json.Written
import ReplyGateway.Proofs.Xml.Fields

namespace ReplyGateway

/-- What an XML text and a JSON text may have in common: a text, and parts under names in their order. Several parts
may go by one name. -/
inductive Outline
  | node (text : String) (parts : List (String × Outline))

namespace Outline

def leaf (text : String) : Outline := node text []

def ofParts (parts : List (String × Outline)) : Outline := node "" parts

end Outline

namespace Xml

mutual

/-- Puts a node before an outline: text with its references replaced, or an element without attributes. -/
def Node.addTo? : Node → Outline → Option Outline
  | .run [.text raw], .node text parts => do
    return .node (String.ofList (← unescape raw) ++ text) parts
  | .element name [] children, .node text parts => do
    return .node text ((String.ofList name, ← outline? children) :: parts)
  | _, _ => none

/-- The outline of what is inside an element. -/
def outline? : List Node → Option Outline
  | [] => some (.leaf "")
  | node :: rest => do node.addTo? (← outline? rest)

end

/-- Characters are read as nodes with an outline, and no text among them has markup that is not escaped. -/
def Encodes (cs : List Char) (o : Outline) : Prop :=
  ∃ nodes, Writes cs nodes ∧ Sound nodes ∧ outline? nodes = some o

theorem Encodes.text {raw cs : List Char} (escapes : Escapes raw cs) : Encodes raw (.leaf (String.ofList cs)) := by
  refine ⟨textNodes raw, .of_text escapes.notMem, ?_, ?_⟩
  · rw [textNodes]
    split
    · exact .nil
    · refine .run (fun piece mem => ?_) .nil
      obtain rfl := List.mem_singleton.1 mem
      exact ⟨cs, escapes⟩
  -- an empty text leaves no node behind
  · by_cases empty : raw = []
    · subst empty
      cases escapes
      rfl
    · rw [textNodes, if_neg empty]
      simp [outline?, Node.addTo?, escapes.unescape_eq, Outline.leaf]

/-- Elements one after the other have the outlines of what is inside them, under their names. -/
theorem Encodes.elements {α : Type} {xs : List α} {name : α → String} {content : α → List Char} {outline : α → Outline}
    (plain : ∀ x ∈ xs, IsPlain (name x).toList) (each : ∀ x ∈ xs, Encodes (content x) (outline x)) :
    Encodes (xs.flatMap fun x => writeElement (name x).toList (content x))
      (.ofParts (xs.map fun x => (name x, outline x))) := by
  induction xs with
  | nil => exact ⟨[], .nil, .nil, rfl⟩
  | cons x xs ih =>
    obtain ⟨nodes, writes, sound, inner⟩ := each x (.head _)
    obtain ⟨more, after, soundAfter, rest⟩ := ih (fun y mem => plain y (.tail _ mem)) fun y mem => each y (.tail _ mem)
    refine ⟨.element (name x).toList [] nodes :: more, ?_, .element .nil sound soundAfter, ?_⟩
    · exact .element (plain x (.head _)) .nil (writesElement_writeElement ..) writes after
    · rw [outline?, rest, Option.bind_eq_bind, Option.bind_some, Outline.ofParts, Node.addTo?, inner,
        String.ofList_toList]
      rfl

/-- A text is nothing but an element with some parts. It is read as this element, and has no markup that is not
escaped. -/
def IsElement (s name : String) (parts : List (String × Outline)) : Prop :=
  ∃ nodes, Writes s.toList [.element name.toList [] nodes] ∧
    rootOf? s.toList = some (.element name.toList [] nodes) ∧ Sound nodes ∧ outline? nodes = some (.ofParts parts)

theorem Encodes.isElement {cs : List Char} {name : String} {parts : List (String × Outline)}
    (encodes : Encodes cs (.ofParts parts)) (plain : IsPlain name.toList) :
    IsElement (String.ofList (writeElement name.toList cs)) name parts := by
  obtain ⟨nodes, writes, sound, outlined⟩ := encodes
  have element := writesElement_writeElement name.toList cs
  have whole := Writes.element plain .nil element writes .nil
  have read := rootOf?_of_writes plain .nil element writes []
  rw [List.append_nil] at whole read
  refine ⟨nodes, ?_, ?_, sound, outlined⟩
  · rwa [String.toList_ofList]
  · rwa [String.toList_ofList]

/-- A text is an element in one way only. -/
theorem IsElement.parts_eq {s name : String} {parts parts' : List (String × Outline)} (element : IsElement s name parts)
    (element' : IsElement s name parts') : parts = parts' := by
  obtain ⟨nodes, _, read, _, outlined⟩ := element
  obtain ⟨nodes', _, read', _, outlined'⟩ := element'
  rw [read] at read'
  cases read'
  rw [outlined] at outlined'
  cases outlined'
  rfl

end Xml

namespace Json

/-- The text of a number without a point and without an exponent, as it is written. -/
def Numeral.text? (n : Numeral) : Option String :=
  if n.fraction = [] ∧ n.exponent = none then
    some (String.ofList ((if n.negative then ['-'] else []) ++ n.whole.map Nat.digitChar))
  else none

theorem digitChar_sub {c : Char} (low : 48 ≤ c.toNat) (high : c.toNat ≤ 57) : Nat.digitChar (c.toNat - 48) = c := by
  rw [← Char.toNat_inj, Nat.toNat_digitChar_of_lt_ten (by omega)]
  omega

theorem Numeral.text?_ofInt (n : Int) : (ofInt n).text? = some (toString n) := by
  have digits : (digitsOf n.natAbs).map Nat.digitChar = Nat.toDigits 10 n.natAbs := by
    have each (c : Char) (mem : c ∈ Nat.toDigits 10 n.natAbs) : Nat.digitChar (c.toNat - 48) = c :=
      digitChar_sub (bounds_of_mem_toDigits mem).1 (bounds_of_mem_toDigits mem).2
    rw [digitsOf, List.map_map]
    exact (List.map_congr_left each).trans (List.map_id _)
  rw [text?, if_pos ⟨rfl, rfl⟩, ← String.ofList_toList (s := toString n), toList_toString]
  simp [ofInt, digits]

mutual

/-- The outlines of what stands under a name: those of the items of an array, or else a single one. -/
def Document.outlines? : Document → Option (List Outline)
  | .string raw => (Quoted.decode raw).map fun s => [.leaf s]
  | .number n => n.text?.map fun s => [.leaf s]
  | .array items => Document.itemOutlines? items
  | .object members => (Document.memberOutlines? members).map fun parts => [.ofParts parts]
  | .null | .bool _ => none

def Document.itemOutlines? : List Document → Option (List Outline)
  | [] => some []
  | d :: rest => do return (← Document.outlines? d) ++ (← Document.itemOutlines? rest)

def Document.memberOutlines? : List (Bytes × Document) → Option (List (String × Outline))
  | [] => some []
  | (name, d) :: rest => do
    let name ← Quoted.decode name
    return (← Document.outlines? d).map (name, ·) ++ (← Document.memberOutlines? rest)

end

namespace Value

/-- A value is written as a document with outlines. -/
def Encodes (v : Value) (outlines : List Outline) : Prop :=
  ∃ d, v.document? = some d ∧ d.outlines? = some outlines

theorem Encodes.string (s : String) : Encodes (.string s) [.leaf s] :=
  ⟨_, rfl, by rw [Document.outlines?, Quoted.decode_written]; rfl⟩

theorem Encodes.integer (n : Int) : Encodes (.number (.integer n)) [.leaf (toString n)] :=
  ⟨_, rfl, by rw [Document.outlines?, Numeral.text?_ofInt]; rfl⟩

variable {α : Type} {xs : List α} {value : α → Value} {outlines : α → List Outline}

/-- Items stand one after the other under the name of their array. -/
theorem Encodes.array (each : ∀ x ∈ xs, (value x).Encodes (outlines x)) :
    Encodes (.array (xs.map value)) (xs.flatMap outlines) := by
  have items : ∃ ds, documents? (xs.map value) = some ds ∧ Document.itemOutlines? ds = some (xs.flatMap outlines) := by
    induction xs with
    | nil => exact ⟨[], rfl, rfl⟩
    | cons x xs ih =>
      obtain ⟨d, first, outlined⟩ := each x (.head _)
      obtain ⟨ds, rest, more⟩ := ih fun y mem => each y (.tail _ mem)
      exact ⟨d :: ds, by simp [documents?, first, rest], by simp [Document.itemOutlines?, outlined, more]⟩
  obtain ⟨ds, written, outlined⟩ := items
  exact ⟨.array ds, by rw [document?, written]; rfl, by rw [Document.outlines?, outlined]⟩

theorem exists_memberDocuments? (name : α → String) (each : ∀ x ∈ xs, (value x).Encodes (outlines x)) :
    ∃ members, memberDocuments? (xs.map fun x => (name x, value x)) = some members ∧
      Document.memberOutlines? members = some (xs.flatMap fun x => (outlines x).map (name x, ·)) := by
  induction xs with
  | nil => exact ⟨[], rfl, rfl⟩
  | cons x xs ih =>
    obtain ⟨d, first, outlined⟩ := each x (.head _)
    obtain ⟨members, rest, more⟩ := ih fun y mem => each y (.tail _ mem)
    refine ⟨(Quoted.written (name x), d) :: members, by simp [memberDocuments?, first, rest], ?_⟩
    simp [Document.memberOutlines?, Quoted.decode_written, outlined, more]

/-- Members with texts, numbers and items have the outlines that they are written from. -/
theorem Encodes.object (name : α → String) (each : ∀ x ∈ xs, (value x).Encodes (outlines x)) :
    Encodes (.object (xs.map fun x => (name x, value x)))
      [.ofParts (xs.flatMap fun x => (outlines x).map (name x, ·))] := by
  obtain ⟨members, written, outlined⟩ := exists_memberDocuments? name each
  exact ⟨.object members, by rw [document?, written]; rfl, by rw [Document.outlines?, outlined]; rfl⟩

end Value

/-- A text is an object with some parts. -/
def IsObject (s : String) (parts : List (String × Outline)) : Prop :=
  ∃ members, Document.ofString? s = some (.object members) ∧ Document.memberOutlines? members = some parts

theorem IsObject.parts_eq {s : String} {parts parts' : List (String × Outline)} (object : IsObject s parts)
    (object' : IsObject s parts') : parts = parts' := by
  obtain ⟨members, read, outlined⟩ := object
  obtain ⟨members', read', outlined'⟩ := object'
  rw [read] at read'
  cases read'
  exact Option.some.inj (outlined.symm.trans outlined')

/-- The text of an object has the outlines of its members under their names. -/
theorem Value.isObject_text {α : Type} {xs : List α} {value : α → Value} {outlines : α → List Outline}
    (name : α → String) (each : ∀ x ∈ xs, (value x).Encodes (outlines x)) :
    IsObject (Value.text (.object (xs.map fun x => (name x, value x))))
      (xs.flatMap fun x => (outlines x).map (name x, ·)) := by
  obtain ⟨members, written, outlined⟩ := exists_memberDocuments? name each
  exact ⟨members, ofString?_text _ (by rw [document?, written]; rfl), outlined⟩

end Json
end ReplyGateway
