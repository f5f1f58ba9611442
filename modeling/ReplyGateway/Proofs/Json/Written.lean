import Mathlib
import ReplyGateway.Json.Document
import ReplyGateway.Json.Printer
import ReplyGateway.Proofs.Json.Token

namespace ReplyGateway.Json

mutual

/-- The document that a value is written as, if there are no floating point numbers in it. -/
def Value.document? : Value → Option Document
  | .null => some .null
  | .bool b => some (.bool b)
  | .number (.integer n) => some (.number (.ofInt n))
  | .number (.float ..) => none
  | .string s => some (.string (Quoted.written s))
  | .array items => (Value.documents? items).map .array
  | .object members => (Value.memberDocuments? members).map .object

def Value.documents? : List Value → Option (List Document)
  | [] => some []
  | v :: rest => do return (← Value.document? v) :: (← Value.documents? rest)

def Value.memberDocuments? : List (String × Value) → Option (List (Bytes × Document))
  | [] => some []
  | (name, v) :: rest => do return (Quoted.written name, ← Value.document? v) :: (← Value.memberDocuments? rest)

end

mutual

/-- The tokens of a document. -/
def Document.tokens : Document → List Token
  | .null => [.null]
  | .bool b => [.bool b]
  | .number n => [.number n]
  | .string raw => [.string raw]
  | .array [] => [.openArray, .closeArray]
  | .array (d :: items) => .openArray :: (Document.tokens d ++ Document.itemTokens items)
  | .object [] => [.openObject, .closeObject]
  | .object ((name, d) :: members) =>
    .openObject :: .string name :: .colon :: (Document.tokens d ++ Document.memberTokens members)

/-- The tokens after an item, up to the bracket that closes the array. -/
def Document.itemTokens : List Document → List Token
  | [] => [.closeArray]
  | d :: rest => .comma :: (Document.tokens d ++ Document.itemTokens rest)

/-- The tokens after a member, up to the brace that closes the object. -/
def Document.memberTokens : List (Bytes × Document) → List Token
  | [] => [.closeObject]
  | (name, d) :: rest => .comma :: .string name :: .colon :: (Document.tokens d ++ Document.memberTokens rest)

end

namespace Document

/-- Where an item may stand, so may the first one. -/
theorem foldlM_firstItem (d : Document) (stack : List Frame) (rest : List Token) :
    (d.tokens ++ rest).foldlM Reading.take (.firstItem stack) =
      (d.tokens ++ rest).foldlM Reading.take (.value (.array [] :: stack)) := by
  cases d with
  | array items => cases items <;> rfl
  | object members => cases members <;> rfl
  | _ => rfl

mutual

/-- The tokens of a document take a reader from where a value may stand to after the value. Arrays and objects go
round to their own items and members. -/
theorem foldlM_tokens (d : Document) (stack : List Frame) (rest : List Token) :
    (d.tokens ++ rest).foldlM Reading.take (.value stack) = rest.foldlM Reading.take (.after stack d) :=
  match d with
  | .null | .bool _ | .number _ | .string _ | .array [] | .object [] => rfl
  | .array (d :: items) => by
    have first := foldlM_firstItem d stack (itemTokens items ++ rest)
    rw [foldlM_tokens d, foldlM_itemTokens items] at first
    simpa [tokens, Reading.take, Reading.startValue] using first
  | .object ((name, d) :: members) => by
    have value := foldlM_tokens d (.object [] name :: stack) (memberTokens members ++ rest)
    rw [foldlM_memberTokens members] at value
    simpa [tokens, Reading.take, Reading.startValue] using value

theorem foldlM_itemTokens (items : List Document) (done : List Document) (stack : List Frame) (d : Document)
    (rest : List Token) :
    (itemTokens items ++ rest).foldlM Reading.take (.after (.array done :: stack) d) =
      rest.foldlM Reading.take (.after stack (.array (done.reverse ++ d :: items))) :=
  match items with
  | [] => by simp [itemTokens, Reading.take]
  | e :: items => by
    have value := foldlM_tokens e (.array (d :: done) :: stack) (itemTokens items ++ rest)
    rw [foldlM_itemTokens items] at value
    simpa [itemTokens, Reading.take] using value

theorem foldlM_memberTokens (members done : List (Bytes × Document)) (stack : List Frame) (name : Bytes)
    (d : Document) (rest : List Token) :
    (memberTokens members ++ rest).foldlM Reading.take (.after (.object done name :: stack) d) =
      rest.foldlM Reading.take (.after stack (.object (done.reverse ++ (name, d) :: members))) :=
  match members with
  | [] => by simp [memberTokens, Reading.take]
  | (other, e) :: members => by
    have value := foldlM_tokens e (.object ((name, d) :: done) other :: stack) (memberTokens members ++ rest)
    rw [foldlM_memberTokens members] at value
    simpa [memberTokens, Reading.take] using value

end

/-- Bytes that spell the tokens of a document are read as the document. -/
theorem ofBytes?_eq {d : Document} {b : Bytes} (spells : Token.Spells b d.tokens) : ofBytes? b = some d := by
  have read := foldlM_tokens d [] []
  rw [List.append_nil] at read
  simp only [ofBytes?, spells.ofBytes?_eq, Option.bind_eq_bind, Option.bind_some, read]
  rfl

end Document

namespace Value

def utf8 (cs : List Char) : Bytes := cs.flatMap String.utf8EncodeChar

theorem utf8_append (cs ds : List Char) : utf8 (cs ++ ds) = utf8 cs ++ utf8 ds := List.flatMap_append

theorem utf8_encode (s : String) : utf8 (Quoted.encode s) = 34 :: (Quoted.written s ++ [34]) := by
  rw [utf8, ← Bytes.ofString_ofList, Quoted.ofString_encode]

/-- No number goes on into a comma, a bracket or a brace. -/
theorem ends_punctuation {b : UInt8} (mem : b ∈ ([44, 93, 125] : Bytes)) (rest : Bytes) :
    Numeral.Ends (b :: rest) := by
  intro c first
  obtain rfl := Option.some.inj first
  simp only [List.mem_cons, List.not_mem_nil, or_false] at mem
  rcases mem with rfl | rfl | rfl <;> decide

theorem utf8_cons {c : Char} {b : UInt8} (one : String.utf8EncodeChar c = [b]) (cs : List Char) :
    utf8 (c :: cs) = b :: utf8 cs := by
  rw [utf8, List.flatMap_cons, one]
  rfl

theorem utf8_comma (cs : List Char) : utf8 (',' :: cs) = 44 :: utf8 cs := utf8_cons rfl cs

theorem utf8_colon (cs : List Char) : utf8 (':' :: cs) = 58 :: utf8 cs := utf8_cons rfl cs

mutual

/-- What is written for a value spells the tokens of its document, if no number goes on into what follows. -/
theorem spells_write (v : Value) {d : Document} {rest : Bytes} {tokens : List Token} (written : v.document? = some d)
    (ends : Numeral.Ends rest) (after : Token.Spells rest tokens) :
    Token.Spells (utf8 v.write ++ rest) (d.tokens ++ tokens) :=
  match v with
  | .null => by
    obtain rfl := Option.some.inj written
    have mem : (Token.null, [110, 117, 108, 108]) ∈ Token.marks := by decide
    exact .mark mem after
  | .bool b => by
    obtain rfl := Option.some.inj written
    have mem : (Token.bool false, [102, 97, 108, 115, 101]) ∈ Token.marks ∧
      (Token.bool true, [116, 114, 117, 101]) ∈ Token.marks := by decide
    cases b
    · exact .mark mem.1 after
    · exact .mark mem.2 after
  | .number (.integer n) => by
    obtain rfl := Option.some.inj written
    rw [write, utf8, Numeral.utf8_write]
    exact .number (Numeral.spells_written n) ends after
  | .number (.float ..) => by cases written
  | .string s => by
    obtain rfl := Option.some.inj written
    rw [write, utf8_encode]
    simpa [Document.tokens] using after.string (Quoted.spells_written s).isRaw
  | .array [] => by
    obtain rfl := Option.some.inj written
    have closed : Token.Spells (93 :: rest) (.closeArray :: tokens) := .byte (by decide) after
    exact closed.byte (by decide)
  | .array (v :: items) => by
    simp only [document?, documents?, Option.map_eq_some_iff, Option.bind_eq_bind, Option.bind_eq_some_iff,
      Option.pure_def, Option.some.injEq] at written
    obtain ⟨_, ⟨d, first, ds, more, rfl⟩, rfl⟩ := written
    have inside := spells_writeItems v items first more after
    exact inside.byte (by decide)
  | .object [] => by
    obtain rfl := Option.some.inj written
    have closed : Token.Spells (125 :: rest) (.closeObject :: tokens) := .byte (by decide) after
    exact closed.byte (by decide)
  | .object ((name, v) :: members) => by
    simp only [document?, memberDocuments?, Option.map_eq_some_iff, Option.bind_eq_bind, Option.bind_eq_some_iff,
      Option.pure_def, Option.some.injEq] at written
    obtain ⟨_, ⟨d, first, ds, more, rfl⟩, rfl⟩ := written
    have inside := spells_writeMembers name v members first more after
    exact inside.byte (by decide)
termination_by sizeOf v

theorem spells_writeItems (v : Value) (items : List Value) {d : Document} {ds : List Document} {rest : Bytes}
    {tokens : List Token} (first : v.document? = some d) (more : documents? items = some ds)
    (after : Token.Spells rest tokens) :
    Token.Spells (utf8 (writeItems (v :: items)) ++ rest) (d.tokens ++ Document.itemTokens ds ++ tokens) :=
  match items with
  | [] => by
    obtain rfl := Option.some.inj more
    have closed : Token.Spells (93 :: rest) (.closeArray :: tokens) := .byte (by decide) after
    have inside := spells_write v first (ends_punctuation (by decide) rest) closed
    rw [writeItems, utf8_append, List.append_assoc, Document.itemTokens, List.append_assoc]
    exact inside
  | w :: items => by
    simp only [documents?, Option.bind_eq_bind, Option.bind_eq_some_iff, Option.pure_def, Option.some.injEq] at more
    obtain ⟨e, second, es, more, rfl⟩ := more
    have left := spells_writeItems w items second more after
    have comma := left.byte (by decide : (Token.comma, [44]) ∈ Token.marks)
    have inside := spells_write v first (ends_punctuation (by decide) _) comma
    rw [writeItems, utf8_append, utf8_comma, List.append_assoc, Document.itemTokens, List.append_assoc]
    · exact inside
    · simp
termination_by sizeOf (v :: items)

theorem spells_writeMembers (name : String) (v : Value) (members : List (String × Value)) {d : Document}
    {ds : List (Bytes × Document)} {rest : Bytes} {tokens : List Token} (first : v.document? = some d)
    (more : memberDocuments? members = some ds) (after : Token.Spells rest tokens) :
    Token.Spells (utf8 (writeMembers ((name, v) :: members)) ++ rest)
      (.string (Quoted.written name) :: .colon :: (d.tokens ++ Document.memberTokens ds) ++ tokens) :=
  match members with
  | [] => by
    obtain rfl := Option.some.inj more
    have closed : Token.Spells (125 :: rest) (.closeObject :: tokens) := .byte (by decide) after
    have inside := spells_write v first (ends_punctuation (by decide) rest) closed
    have colon := inside.byte (by decide : (Token.colon, [58]) ∈ Token.marks)
    have named := colon.string (Quoted.spells_written name).isRaw
    have closing : utf8 ['\x7d'] = [125] := rfl
    rw [writeMembers, utf8_append, utf8_encode, utf8_colon, utf8_append, closing]
    simpa [Document.memberTokens] using named
  | (other, w) :: members => by
    simp only [memberDocuments?, Option.bind_eq_bind, Option.bind_eq_some_iff, Option.pure_def,
      Option.some.injEq] at more
    obtain ⟨e, second, es, more, rfl⟩ := more
    have left := spells_writeMembers other w members second more after
    have comma := left.byte (by decide : (Token.comma, [44]) ∈ Token.marks)
    have inside := spells_write v first (ends_punctuation (by decide) _) comma
    have colon := inside.byte (by decide : (Token.colon, [58]) ∈ Token.marks)
    have named := colon.string (Quoted.spells_written name).isRaw
    rw [writeMembers, utf8_append, utf8_encode, utf8_colon, utf8_append, utf8_comma]
    · simpa [Document.memberTokens] using named
    · simp
termination_by sizeOf ((name, v) :: members)

end

/-- The text of a value without floating point numbers spells the tokens of its document. -/
theorem spells_text (v : Value) {d : Document} (written : v.document? = some d) :
    Token.Spells (Bytes.ofString v.text) d.tokens := by
  have spells := spells_write v written .nil .done
  rw [List.append_nil, List.append_nil, utf8, ← Bytes.ofString_ofList] at spells
  exact spells

/-- A document that is written reads back. -/
theorem ofString?_text (v : Value) {d : Document} (written : v.document? = some d) :
    Document.ofString? v.text = some d := Document.ofBytes?_eq (v.spells_text written)

end Value

end ReplyGateway.Json
