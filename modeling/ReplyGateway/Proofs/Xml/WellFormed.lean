import Mathlib
import ReplyGateway.Proofs.Xml.Text

namespace ReplyGateway.Xml

/-- The characters of XML. -/
def IsChar (c : Char) : Prop :=
  c = '\t' ∨ c = '\n' ∨ c = '\r' ∨ 0x20 ≤ c.toNat ∧ c.toNat ≤ 0xD7FF ∨ 0xE000 ≤ c.toNat ∧ c.toNat ≤ 0xFFFD ∨
    0x10000 ≤ c.toNat

instance : DecidablePred IsChar := fun c =>
  inferInstanceAs (Decidable (c = '\t' ∨ c = '\n' ∨ c = '\r' ∨ 0x20 ≤ c.toNat ∧ c.toNat ≤ 0xD7FF ∨
    0xE000 ≤ c.toNat ∧ c.toNat ≤ 0xFFFD ∨ 0x10000 ≤ c.toNat))

def AreChars (cs : List Char) : Prop := ∀ c ∈ cs, IsChar c

instance : DecidablePred AreChars := fun cs => cs.decidableBAll IsChar

/-- The codes of the characters with which a name may start. -/
def nameStarts : List (Nat × Nat) :=
  [(0x3A, 0x3A), (0x41, 0x5A), (0x5F, 0x5F), (0x61, 0x7A), (0xC0, 0xD6), (0xD8, 0xF6), (0xF8, 0x2FF), (0x370, 0x37D),
    (0x37F, 0x1FFF), (0x200C, 0x200D), (0x2070, 0x218F), (0x2C00, 0x2FEF), (0x3001, 0xD7FF), (0xF900, 0xFDCF),
    (0xFDF0, 0xFFFD), (0x10000, 0xEFFFF)]

/-- The codes of the characters that a name may have after its start only. -/
def nameRests : List (Nat × Nat) :=
  [(0x2D, 0x2E), (0x30, 0x39), (0xB7, 0xB7), (0x300, 0x36F), (0x203F, 0x2040)]

def IsNameStart (c : Char) : Prop := ∃ range ∈ nameStarts, range.1 ≤ c.toNat ∧ c.toNat ≤ range.2

instance : DecidablePred IsNameStart := fun c =>
  inferInstanceAs (Decidable (∃ range ∈ nameStarts, range.1 ≤ c.toNat ∧ c.toNat ≤ range.2))

def IsNameChar (c : Char) : Prop := ∃ range ∈ nameStarts ++ nameRests, range.1 ≤ c.toNat ∧ c.toNat ≤ range.2

instance : DecidablePred IsNameChar := fun c =>
  inferInstanceAs (Decidable (∃ range ∈ nameStarts ++ nameRests, range.1 ≤ c.toNat ∧ c.toNat ≤ range.2))

/-- A name of an element, an attribute or a processing instruction. -/
def IsName (name : List Char) : Prop := ∃ c rest, name = c :: rest ∧ IsNameStart c ∧ ∀ d ∈ rest, IsNameChar d

theorem isName_cons {c : Char} {rest : List Char} :
    IsName (c :: rest) ↔ IsNameStart c ∧ ∀ d ∈ rest, IsNameChar d := by
  refine ⟨?_, fun ⟨start, others⟩ => ⟨c, rest, rfl, start, others⟩⟩
  rintro ⟨_, _, same, named⟩
  obtain ⟨rfl, rfl⟩ := List.cons.inj same
  exact named

instance : DecidablePred IsName
  | [] => isFalse fun ⟨_, _, same, _⟩ => List.cons_ne_nil _ _ same.symm
  | _ :: rest =>
    -- the instance that would be found goes through all characters there are
    haveI : Decidable (∀ d ∈ rest, IsNameChar d) := rest.decidableBAll IsNameChar
    decidable_of_iff _ isName_cons.symm

/-- Spaces, or nothing. -/
def AreSpaces (cs : List Char) : Prop := ∀ c ∈ cs, isSpace c = true

/-- A reference to a predefined entity, or to a character of XML by its code. -/
inductive IsReference : List Char → Prop
  | entity {c : Char} {name : String} : (c, name) ∈ entities → IsReference ('&' :: (name.toList ++ [';']))
  | decimal {digits : List Char} {c : Char} : (∀ d ∈ digits, d.isDigit = true) → code? 10 digits = some c.toNat →
      IsChar c → IsReference ('&' :: '#' :: (digits ++ [';']))
  | hexadecimal {digits : List Char} {c : Char} : (∀ d ∈ digits, (digit? 16 d.toNat).isSome = true) →
      code? 16 digits = some c.toNat → IsChar c → IsReference ('&' :: '#' :: 'x' :: (digits ++ [';']))

/-- The value of an attribute between two quotes. -/
inductive IsValue (quote : Char) : List Char → Prop
  | nil : IsValue quote []
  | char {c : Char} {rest : List Char} : IsChar c → c ≠ '<' → c ≠ '&' → c ≠ quote → IsValue quote rest →
      IsValue quote (c :: rest)
  | reference {cs rest : List Char} : IsReference cs → IsValue quote rest → IsValue quote (cs ++ rest)

/-- Attributes with different names, from the end of the name of the element to the end of its tag. -/
inductive AreAttributes : List Char → List (List Char) → Prop
  | nil {space : List Char} : AreSpaces space → AreAttributes space []
  | cons {space name before after value rest : List Char} {quote : Char} {names : List (List Char)} : space ≠ [] →
      AreSpaces space → IsName name → AreSpaces before → AreSpaces after → quote = '"' ∨ quote = '\'' →
      IsValue quote value → name ∉ names → AreAttributes rest names →
      AreAttributes (space ++ name ++ before ++ '=' :: (after ++ quote :: (value ++ quote :: rest))) (name :: names)

/-- Text between two pieces of markup. -/
structure IsCharData (cs : List Char) : Prop where
  chars : ∀ c ∈ cs, IsChar c ∧ c ≠ '<' ∧ c ≠ '&'
  free : ¬ [']', ']', '>'] <:+: cs

/-- A comment or a processing instruction. -/
inductive IsAside : List Char → Prop
  | comment {cs : List Char} : AreChars cs → ¬ ['-', '-'] <:+: cs ++ ['-'] →
      IsAside ('<' :: '!' :: '-' :: '-' :: (cs ++ ['-', '-', '>']))
  | instruction {target rest : List Char} : IsName target → target.map Char.toLower ≠ "xml".toList →
      AreChars rest → (∀ c ∈ rest.head?, isSpace c = true) → ¬ ['?', '>'] <:+: rest →
      IsAside ('<' :: '?' :: (target ++ rest ++ ['?', '>']))

/-- The ways to put tags around content. -/
inductive Encloses (name attributes content : List Char) : List Char → Prop
  | tags {space : List Char} : AreSpaces space →
      Encloses name attributes content
        ('<' :: (name ++ attributes ++ '>' :: (content ++ '<' :: '/' :: (name ++ space ++ ['>']))))
  | empty : content = [] → Encloses name attributes content ('<' :: (name ++ attributes ++ ['/', '>']))

/-- What may stand inside an element. Text goes on up to the next piece of markup. -/
inductive IsContent : List Char → Prop
  | nil : IsContent []
  | text {cs rest : List Char} : IsCharData cs → (∀ c ∈ rest.head?, c = '<' ∨ c = '&') → IsContent rest →
      IsContent (cs ++ rest)
  | reference {cs rest : List Char} : IsReference cs → IsContent rest → IsContent (cs ++ rest)
  | verbatim {raw rest : List Char} : AreChars raw → ¬ [']', ']', '>'] <:+: raw → IsContent rest →
      IsContent (Markup.cdata raw ++ rest)
  | aside {cs rest : List Char} : IsAside cs → IsContent rest → IsContent (cs ++ rest)
  | element {name attributes content written rest : List Char} {names : List (List Char)} : IsName name →
      AreAttributes attributes names → IsContent content → Encloses name attributes content written → IsContent rest →
      IsContent (written ++ rest)

/-- What may stand before and after the outermost element. -/
inductive IsMisc : List Char → Prop
  | nil : IsMisc []
  | space {c : Char} {rest : List Char} : isSpace c = true → IsMisc rest → IsMisc (c :: rest)
  | aside {cs rest : List Char} : IsAside cs → IsMisc rest → IsMisc (cs ++ rest)

/-- A well-formed document by XML 1.0, apart from any reader. It has no XML declaration and no document type, so the
only entities are the predefined ones. -/
def IsDocument (cs : List Char) : Prop :=
  ∃ front name attributes names content written back, cs = front ++ written ++ back ∧ IsMisc front ∧ IsName name ∧
    AreAttributes attributes names ∧ IsContent content ∧ Encloses name attributes content written ∧ IsMisc back

section Chars

variable {c : Char} {cs ds name content written : List Char}

@[simp] theorem areChars_nil : AreChars [] := List.forall_mem_nil _

@[simp] theorem areChars_cons : AreChars (c :: cs) ↔ IsChar c ∧ AreChars cs := List.forall_mem_cons

@[simp] theorem areChars_append : AreChars (cs ++ ds) ↔ AreChars cs ∧ AreChars ds := List.forall_mem_append

theorem isChar_of_ascii (printable : 0x20 ≤ c.toNat) (ascii : c.toNat ≤ 0x7F) : IsChar c :=
  .inr (.inr (.inr (.inl ⟨printable, ascii.trans (by decide)⟩)))

theorem isChar_of_isDigit (digit : c.isDigit = true) : IsChar c := by
  have bounds : 48 ≤ c.toNat ∧ c.toNat ≤ 57 := Char.isDigit_iff_toNat.1 digit
  exact isChar_of_ascii (by omega) (by omega)

theorem isChar_of_isSpace (space : isSpace c = true) : IsChar c := by
  simp only [isSpace, Bool.or_eq_true, decide_eq_true_eq] at space
  rcases space with ((rfl | rfl) | rfl) | rfl <;> decide

theorem isChar_of_digit? {base : Nat} (digit : (digit? base c.toNat).isSome = true) : IsChar c := by
  have bounds : 48 ≤ c.toNat ∧ c.toNat ≤ 102 := by
    simp only [digit?] at digit
    split at digit
    · omega
    split at digit
    · omega
    split at digit
    · omega
    · cases digit
  exact isChar_of_ascii (by omega) (by omega)

theorem IsNameChar.isChar (nameChar : IsNameChar c) : IsChar c := by
  have inside : ∀ range ∈ nameStarts ++ nameRests, (0x20 ≤ range.1 ∧ range.2 ≤ 0xD7FF) ∨
      (0xE000 ≤ range.1 ∧ range.2 ≤ 0xFFFD) ∨ 0x10000 ≤ range.1 := by decide
  obtain ⟨range, mem, low, high⟩ := nameChar
  rcases inside range mem with below | above | beyond
  · exact .inr (.inr (.inr (.inl ⟨below.1.trans low, high.trans below.2⟩)))
  · exact .inr (.inr (.inr (.inr (.inl ⟨above.1.trans low, high.trans above.2⟩))))
  · exact .inr (.inr (.inr (.inr (.inr (beyond.trans low)))))

theorem IsName.areChars (isName : IsName name) : AreChars name := by
  obtain ⟨first, rest, rfl, ⟨range, mem, inside⟩, others⟩ := isName
  have start : IsChar first := IsNameChar.isChar ⟨range, List.mem_append_left _ mem, inside⟩
  exact areChars_cons.2 ⟨start, fun d mem => (others d mem).isChar⟩

theorem AreSpaces.areChars (spaces : AreSpaces cs) : AreChars cs := fun c mem => isChar_of_isSpace (spaces c mem)

theorem IsReference.areChars (reference : IsReference cs) : AreChars cs := by
  cases reference with
  | entity mem =>
    have names : ∀ entity ∈ entities, AreChars entity.2.toList := by decide
    simp +decide [names _ mem]
  | @decimal digits _ spelled =>
    have chars : AreChars digits := fun d mem => isChar_of_isDigit (spelled d mem)
    simp +decide [chars]
  | @hexadecimal digits _ spelled =>
    have chars : AreChars digits := fun d mem => isChar_of_digit? (spelled d mem)
    simp +decide [chars]

theorem IsValue.areChars {quote : Char} (value : IsValue quote cs) : AreChars cs := by
  induction value with
  | nil => exact areChars_nil
  | char isChar _ _ _ _ ih => exact areChars_cons.2 ⟨isChar, ih⟩
  | reference reference _ ih => exact areChars_append.2 ⟨reference.areChars, ih⟩

theorem AreAttributes.areChars {names : List (List Char)} (attributes : AreAttributes cs names) : AreChars cs := by
  induction attributes with
  | nil spaces => exact spaces.areChars
  | @cons _ _ _ _ _ _ quote _ _ space isName before after quoted value _ _ ih =>
    have isChar : IsChar quote := by rcases quoted with rfl | rfl <;> decide
    simp +decide [space.areChars, isName.areChars, before.areChars, after.areChars, isChar, value.areChars, ih]

theorem IsAside.areChars (aside : IsAside cs) : AreChars cs := by
  cases aside with
  | comment chars => simp +decide [chars]
  | instruction target _ chars => simp +decide [target.areChars, chars]

theorem Encloses.areChars {attributes : List Char} (encloses : Encloses name attributes content written)
    (isName : IsName name) (inTag : AreChars attributes) (inside : AreChars content) : AreChars written := by
  cases encloses with
  | tags spaces => simp +decide [isName.areChars, inTag, inside, spaces.areChars]
  | empty => simp +decide [isName.areChars, inTag]

/-- By induction on the content: nothing but characters of XML stands in an element. -/
theorem IsContent.areChars (isContent : IsContent cs) : AreChars cs := by
  induction isContent with
  | nil => exact areChars_nil
  | text data _ _ ih => exact areChars_append.2 ⟨fun c mem => (data.chars c mem).1, ih⟩
  | reference reference _ ih => exact areChars_append.2 ⟨reference.areChars, ih⟩
  | verbatim chars _ _ ih => simp +decide [Markup.cdata, chars, ih]
  | aside aside _ ih => exact areChars_append.2 ⟨aside.areChars, ih⟩
  | element isName attributes _ encloses _ inside after =>
    exact areChars_append.2 ⟨encloses.areChars isName attributes.areChars inside, after⟩

theorem IsMisc.areChars (misc : IsMisc cs) : AreChars cs := by
  induction misc with
  | nil => exact areChars_nil
  | space space _ ih => exact areChars_cons.2 ⟨isChar_of_isSpace space, ih⟩
  | aside aside _ ih => exact areChars_append.2 ⟨aside.areChars, ih⟩

/-- Nothing but characters of XML stands in a well-formed document. -/
theorem IsDocument.areChars (document : IsDocument cs) : AreChars cs := by
  obtain ⟨front, name, attributes, names, content, written, back, rfl, before, isName, areAttributes, isContent,
    encloses, after⟩ := document
  have inside := encloses.areChars isName areAttributes.areChars isContent.areChars
  exact areChars_append.2 ⟨areChars_append.2 ⟨before.areChars, inside⟩, after.areChars⟩

end Chars

section Writing

variable {c : Char} {cs run name content : List Char}

/-- A character is written as itself, if it begins no markup, or else by an entity. -/
theorem escapeChar_cases (c : Char) :
    escapeChar c = [c] ∧ c ≠ '<' ∧ c ≠ '&' ∧ c ≠ '>' ∨
      IsChar c ∧ ∃ name, (c, name) ∈ entities ∧ escapeChar c = '&' :: (name.toList ++ [';']) := by
  fun_cases escapeChar c with
  | case1 same => exact .inr ⟨same ▸ by decide, "lt", same ▸ by decide, rfl⟩
  | case2 _ same => exact .inr ⟨same ▸ by decide, "gt", same ▸ by decide, rfl⟩
  | case3 _ _ same => exact .inr ⟨same ▸ by decide, "amp", same ▸ by decide, rfl⟩
  | case4 opens closes refers => exact .inl ⟨rfl, opens, refers, closes⟩

/-- No escape brings a character in or takes one away that XML does not have. -/
theorem areChars_escape : AreChars (escape cs) ↔ AreChars cs := by
  induction cs with
  | nil => rfl
  | cons c cs ih =>
    rw [escape, List.flatMap_cons, areChars_append, ← escape, ih, areChars_cons]
    refine and_congr_left fun _ => ?_
    rcases escapeChar_cases c with ⟨itself, _⟩ | ⟨isChar, name, mem, entity⟩
    · simp [itself]
    · exact iff_of_true (entity ▸ (IsReference.entity mem).areChars) isChar

theorem isCharData_of_plain (plain : ∀ c ∈ run, IsChar c ∧ c ≠ '<' ∧ c ≠ '&' ∧ c ≠ '>') : IsCharData run where
  chars c mem := ⟨(plain c mem).1, (plain c mem).2.1, (plain c mem).2.2.1⟩
  free inside := (plain '>' (inside.subset (by decide))).2.2.2 rfl

theorem IsContent.append_escape (run : List Char) (plain : ∀ c ∈ run, IsChar c ∧ c ≠ '<' ∧ c ≠ '&' ∧ c ≠ '>')
    (chars : AreChars cs) : IsContent (run ++ escape cs) := by
  -- characters that stand for themselves are put into the run before them, which an entity ends
  induction cs generalizing run with
  | nil => exact .text (isCharData_of_plain plain) (by simp [escape]) .nil
  | cons c cs ih =>
    obtain ⟨isChar, others⟩ := areChars_cons.1 chars
    rw [escape, List.flatMap_cons, ← escape]
    rcases escapeChar_cases c with ⟨itself, apart⟩ | ⟨_, name, mem, entity⟩
    · have longer := ih (run ++ [c]) (List.forall_mem_append.2 ⟨plain, by simp [isChar, apart]⟩) others
      rwa [List.append_assoc, ← itself] at longer
    · have after : IsContent (escape cs) := ih [] (List.forall_mem_nil _) others
      exact .text (isCharData_of_plain plain) (by simp [entity]) (entity ▸ .reference (.entity mem) after)

/-- Escaped text may stand inside an element if it has no other characters than those of XML. -/
theorem IsContent.escape (chars : AreChars cs) : IsContent (escape cs) :=
  .append_escape [] (List.forall_mem_nil _) chars

theorem encloses_writeElement (name content : List Char) : Encloses name [] content (writeElement name content) := by
  unfold writeElement
  split
  · rename_i hollow
    have empty : Encloses name [] content ('<' :: (name ++ [] ++ ['/', '>'])) := .empty (List.isEmpty_iff.1 hollow)
    rwa [List.append_nil] at empty
  · have tags : Encloses name [] content
        ('<' :: (name ++ [] ++ '>' :: (content ++ '<' :: '/' :: (name ++ [] ++ ['>'])))) :=
      .tags (List.forall_mem_nil _)
    rwa [List.append_nil] at tags

theorem areAttributes_nil : AreAttributes [] [] := .nil (List.forall_mem_nil _)

/-- Elements one after the other are well-formed if what is inside them is. -/
theorem IsContent.elements {α : Type} {xs : List α} {name content : α → List Char}
    (named : ∀ x ∈ xs, IsName (name x)) (inside : ∀ x ∈ xs, IsContent (content x)) :
    IsContent (xs.flatMap fun x => writeElement (name x) (content x)) := by
  induction xs with
  | nil => exact .nil
  | cons x xs ih =>
    have rest := ih (fun y mem => named y (.tail _ mem)) fun y mem => inside y (.tail _ mem)
    exact .element (named x (.head _)) areAttributes_nil (inside x (.head _)) (encloses_writeElement ..) rest

/-- An element that is written is a document if what is inside may stand there. -/
theorem isDocument_writeElement (named : IsName name) (inside : IsContent content) :
    IsDocument (writeElement name content) :=
  ⟨[], name, [], [], content, _, [], by simp, .nil, named, areAttributes_nil, inside, encloses_writeElement .., .nil⟩

theorem areChars_writeElement : AreChars (writeElement name content) ↔ AreChars name ∧ AreChars content := by
  have marks : IsChar '<' ∧ IsChar '>' ∧ IsChar '/' := by decide
  unfold writeElement
  split
  · rename_i hollow
    obtain rfl := List.isEmpty_iff.1 hollow
    simp [marks]
  · simp only [areChars_cons, areChars_append, areChars_nil, marks, true_and, and_true]
    exact ⟨fun ⟨named, inside, _⟩ => ⟨named, inside⟩, fun ⟨named, inside⟩ => ⟨named, inside, named⟩⟩

/-- What stands inside an element has all characters of some texts, and nothing else can be wrong with it. -/
structure Carries (content : List Char) (texts : List String) : Prop where
  isContent : AreChars content → IsContent content
  areChars_iff : AreChars content ↔ ∀ s ∈ texts, AreChars s.toList

theorem carries_escape (s : String) : Carries (escape s.toList) [s] where
  isContent chars := .escape (areChars_escape.1 chars)
  areChars_iff := areChars_escape.trans (by simp)

/-- Elements one after the other carry what is inside them. -/
theorem Carries.elements {α : Type} {xs : List α} {name content : α → List Char} {texts : α → List String}
    (named : ∀ x ∈ xs, IsName (name x)) (each : ∀ x ∈ xs, Carries (content x) (texts x)) :
    Carries (xs.flatMap fun x => writeElement (name x) (content x)) (xs.flatMap texts) := by
  have inside : AreChars (xs.flatMap fun x => writeElement (name x) (content x)) ↔ ∀ x ∈ xs, AreChars (content x) :=
    List.forall_mem_flatMap.trans <| forall₂_congr fun x mem =>
      areChars_writeElement.trans (and_iff_right (named x mem).areChars)
  constructor
  · intro chars
    exact .elements named fun x mem => (each x mem).isContent (inside.1 chars x mem)
  · rw [inside, List.forall_mem_flatMap]
    exact forall₂_congr fun x mem => (each x mem).areChars_iff

/-- The outermost element is a well-formed document if what is inside has no other characters than those of XML. -/
theorem Carries.isDocument_iff {texts : List String} (carries : Carries content texts) (named : IsName name) :
    (IsDocument (writeElement name content) ↔ AreChars (writeElement name content)) ∧
      (AreChars (writeElement name content) ↔ ∀ s ∈ texts, AreChars s.toList) := by
  have inside : AreChars (writeElement name content) ↔ AreChars content :=
    areChars_writeElement.trans (and_iff_right named.areChars)
  refine ⟨⟨IsDocument.areChars, fun chars => ?_⟩, inside.trans carries.areChars_iff⟩
  exact isDocument_writeElement named (carries.isContent (inside.1 chars))

end Writing

end ReplyGateway.Xml
