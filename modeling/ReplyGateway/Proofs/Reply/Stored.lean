import Mathlib
import ReplyGateway.Proofs.Json.Plain
import ReplyGateway.Proofs.Json.Record
import ReplyGateway.Proofs.Lists
import ReplyGateway.Proofs.Menu
import ReplyGateway.Reply.Payload

namespace ReplyGateway

open Json (Document Tree Value)

namespace Json.Value

theorem IsPlain.ofText?_eq {v : Value} (plain : v.IsPlain depthLimit) : ofText? v.text = some v := by
  obtain ⟨d, written, read⟩ := plain.exists_document
  rw [ofText?, v.ofString?_text written]
  exact read

theorem isPlain_object_zip {depth : Nat} {values : List Value} (plain : ∀ v ∈ values, IsPlain depth v)
    (names : List String) : IsPlain (depth + 1) (.object (names.zip values)) :=
  .object fun m mem => plain m.2 (List.of_mem_zip mem).2

end Json.Value

namespace Article

theorem ofValue?_toValue (a : Article) : ofValue? a.toValue = some a := by
  have members : a.toValue =
      .object ((fieldNames.map id).zip ([a.title, a.description, a.pictureUrl, a.url].map .string)) := rfl
  rw [ofValue?, members, Tree.record?_zip id (fun _ _ => rfl) (by decide) rfl]
  rfl

/-- Two values say the same of an article: the order of members, members of other names and empty texts make no
difference. -/
inductive Alike : Value → Value → Prop
  | refl (v : Value) : Alike v v
  | object {members members' : List (String × Value)} :
      Tree.Alike some fieldNames (fun _ v => v = .string "") (fun _ _ _ => False) members members' →
      Alike (.object members) (.object members')

theorem Alike.ofValue?_eq {v v' : Value} (alike : Alike v v') : ofValue? v = ofValue? v' := by
  cases alike with
  | refl => rfl
  | object alike =>
    have sameText : Equivalence fun f f' => Reply.fieldText? f = Reply.fieldText? f' :=
      eq_equivalence.comap Reply.fieldText?
    obtain ⟨none, none'⟩ | ⟨found, found', read, read', same⟩ := alike.record?_cases (by decide)
      (fun _ => sameText) (by rintro _ _ rfl; rfl) (by rintro _ _ _ ⟨⟩)
    · rw [ofValue?, ofValue?, none, none']
    · simp only [fieldNames, List.forall_mem_cons] at same
      rw [ofValue?, ofValue?, read, read']
      simp only [fieldNames, List.map_cons, List.map_nil, Option.bind_eq_bind, Option.bind_some, same]

theorem isPlain_toValue (a : Article) (depth : Nat) : a.toValue.IsPlain (depth + 1) := by
  have plain : ∀ v ∈ [a.title, a.description, a.pictureUrl, a.url].map Tree.string, Value.IsPlain depth v := by
    rw [List.forall_mem_map]
    exact fun s _ => .string s
  exact Json.Value.isPlain_object_zip plain fieldNames

end Article

namespace Reply

theorem Kind.nodup_fieldNames (k : Kind) : k.fieldNames.Nodup := by cases k <;> decide

theorem Kind.tagName_notMem_fieldNames (k : Kind) : tagName ∉ k.fieldNames := by cases k <;> decide

theorem length_fieldValues (r : Reply) : r.fieldValues.length = r.kind.fieldNames.length := by cases r <;> rfl

/-- A reply is made of the fields that it writes. -/
theorem ofFields?_fieldValues (r : Reply) : ofFields? r.kind (r.fieldValues.map some) = some r := by
  cases r with
  | news articles =>
    have read : fieldArticles? (some (.array (articles.map Article.toValue))) = some articles :=
      mapM_eq_some_of_map Article.ofValue?_toValue articles
    exact congrArg (Option.map news) read
  | _ => rfl

theorem isPlain_fieldValues (r : Reply) (depth : Nat) : ∀ v ∈ r.fieldValues, v.IsPlain (depth + 2) := by
  cases r with
  | news articles =>
    refine List.forall_mem_singleton.2 (.array ?_)
    rw [List.forall_mem_map]
    exact fun a _ => a.isPlain_toValue depth
  | _ => simp [fieldValues, Value.IsPlain.string]

theorem isPlain_toValue (r : Reply) (depth : Nat) : r.toValue.IsPlain (depth + 3) := by
  have plain : ∀ v ∈ Tree.string r.kind.name :: r.fieldValues, Value.IsPlain (depth + 2) v :=
    List.forall_mem_cons.2 ⟨.string _, r.isPlain_fieldValues depth⟩
  exact Json.Value.isPlain_object_zip plain (tagName :: r.kind.fieldNames)

theorem splitTag?_toValue (r : Reply) :
    splitTag? r.toValue = some (r.kind, .object (r.kind.fieldNames.zip r.fieldValues)) := by
  have apart : ∀ m ∈ r.kind.fieldNames.zip r.fieldValues, m.1 ≠ tagName := fun m mem same =>
    r.kind.tagName_notMem_fieldNames (same ▸ (List.of_mem_zip mem).1)
  have none : (r.kind.fieldNames.zip r.fieldValues).filter (·.1 == tagName) = [] := by
    simpa [List.filter_eq_nil_iff] using apart
  have all : (r.kind.fieldNames.zip r.fieldValues).filter (·.1 != tagName) = r.kind.fieldNames.zip r.fieldValues := by
    simpa [List.filter_eq_self] using apart
  simp [toValue, splitTag?, none, all, Kind.ofName?_name]

theorem ofValue?_toValue (r : Reply) : ofValue? r.toValue = some r := by
  have read : Tree.record? some r.kind.fieldNames (.object ((r.kind.fieldNames.map id).zip r.fieldValues)) = _ :=
    Tree.record?_zip id (fun _ _ => rfl) r.kind.nodup_fieldNames r.length_fieldValues
  rw [List.map_id] at read
  rw [ofValue?, splitTag?_toValue]
  simp [read, ofFields?_fieldValues]

theorem ofText?_eq (s : String) : ofText? s = (Value.ofText? s).bind ofValue? := by
  unfold ofText?
  rw [Value.ofText?, Option.bind_assoc]
  rfl

/-- What is stored of a reply reads back as it. -/
theorem ofText?_text_toValue (r : Reply) : ofText? r.toValue.text = some r := by
  rw [ofText?_eq, (r.isPlain_toValue 124).ofText?_eq]
  exact r.ofValue?_toValue

/-- A value tells a kind: as a member, or as the first item of a form without names. -/
inductive Tags : Value → Kind → Prop
  | member {members : List (String × Value)} {kind : Kind} : (tagName, .string kind.name) ∈ members →
      Tags (.object members) kind
  | first {rest : List Value} {kind : Kind} : Tags (.array (.string kind.name :: rest)) kind

theorem kind_of_ofFields? {kind : Kind} {fields : List (Option Value)} {r : Reply}
    (made : ofFields? kind fields = some r) : r.kind = kind := by
  revert made
  fun_cases ofFields? kind fields <;>
    simp only [Option.map_eq_some_iff, Option.bind_eq_bind, Option.bind_eq_some_iff, Option.pure_def,
      Option.some.injEq, reduceCtorEq, false_implies]
  all_goals grind [kind]

theorem Kind.ofName?_eq_some_iff {name : String} {kind : Kind} : ofName? name = some kind ↔ name = kind.name := by
  refine ⟨fun found => ?_, fun same => same ▸ ofName?_name kind⟩
  have named := List.find?_some (p := fun k : Kind => k.name == name) found
  exact (beq_iff_eq.1 named).symm

theorem under_some (name : String) (members : List (String × Value)) :
    Tree.under some name members = (members.filter (·.1 == name)).map Prod.snd := by
  rw [Tree.under, ← List.filterMap_eq_map, List.filterMap_filter]
  exact List.filterMap_congr fun m _ => by simp

theorem splitTag?_object_eq_some_iff {members : List (String × Value)} {kind : Kind} {rest : Value} :
    splitTag? (.object members) = some (kind, rest) ↔
      Tree.under some tagName members = [.string kind.name] ∧ .object (members.filter (·.1 != tagName)) = rest := by
  rw [splitTag?, under_some]
  split
  · rename_i name only
    simp only [only, Option.map_eq_some_iff, Prod.mk.injEq, Kind.ofName?_eq_some_iff, List.map_cons, List.map_nil,
      List.cons.injEq, Tree.string.injEq, and_true]
    constructor
    · rintro ⟨k, same, is, rest⟩
      exact ⟨is ▸ same, rest⟩
    · rintro ⟨same, rest⟩
      exact ⟨kind, same, rfl, rest⟩
  · rename_i several
    refine iff_of_false (by simp) ?_
    rintro ⟨tags, _⟩
    obtain ⟨m, only, is⟩ := List.map_eq_singleton_iff.1 tags
    exact several m.1 kind.name (is ▸ only)

/-- What is read from an object: it has one member that tells the kind, and every field of that kind at most once. -/
theorem ofValue?_object_eq_some_iff {members : List (String × Value)} {r : Reply} :
    ofValue? (.object members) = some r ↔
      Tree.under some tagName members = [.string r.kind.name] ∧ Tree.IsRecord some r.kind.fieldNames members ∧
        ofFields? r.kind (r.kind.fieldNames.map fun name => (Tree.under some name members).head?) = some r := by
  have untagged (kind : Kind) : Tree.record? some kind.fieldNames (.object (members.filter (·.1 != tagName))) =
      Tree.record? some kind.fieldNames (.object members) :=
    Tree.record?_filter fun m _ tag =>
      ⟨m.1, rfl, (bne_eq_false_iff_eq.1 tag).symm ▸ kind.tagName_notMem_fieldNames⟩
  constructor
  · intro read
    simp only [ofValue?, Option.bind_eq_bind, Option.bind_eq_some_iff, Prod.exists] at read
    obtain ⟨kind, rest, split, given, read, made⟩ := read
    obtain rfl := kind_of_ofFields? made
    obtain ⟨tag, rfl⟩ := splitTag?_object_eq_some_iff.1 split
    rw [untagged] at read
    obtain ⟨once, rfl⟩ := (Tree.record?_object_eq_some_iff r.kind.nodup_fieldNames).1 read
    exact ⟨tag, once, made⟩
  · rintro ⟨tag, once, made⟩
    have read := (Tree.record?_object_eq_some_iff r.kind.nodup_fieldNames).2 ⟨once, rfl⟩
    rw [← untagged] at read
    simp only [ofValue?, splitTag?_object_eq_some_iff.2 ⟨tag, rfl⟩, Option.bind_eq_bind, Option.bind_some, read]
    exact made

/-- What says as much as nothing under the name of a field. -/
inductive IsBlank : String → Value → Prop
  | text {name : String} : name ≠ tagName → name ≠ "articles" → IsBlank name (.string "")
  | articles : IsBlank "articles" (.array [])

/-- Two values say the same under the name of a field. -/
inductive SameInside : String → Value → Value → Prop
  | articles {items items' : List Value} : List.Forall₂ Article.Alike items items' →
      SameInside "articles" (.array items) (.array items')

/-- Two values say the same of a reply: the order of members, members that the kind does not have and empty fields make
no difference. -/
inductive Alike : Value → Value → Prop
  | refl (v : Value) : Alike v v
  | order {members members' : List (String × Value)} : members.Perm members' →
      Alike (.object members) (.object members')
  | object {members members' : List (String × Value)} {kind : Kind} : (tagName, .string kind.name) ∈ members →
      Tree.Alike some (tagName :: kind.fieldNames) IsBlank SameInside members members' →
      Alike (.object members) (.object members')

/-- Two fields of a name are read alike. -/
structure ReadAlike (name : String) (field field' : Option Value) : Prop where
  tag : name = tagName → field = field'
  articles : name = "articles" → fieldArticles? field = fieldArticles? field'
  text : name ≠ tagName → name ≠ "articles" → fieldText? field = fieldText? field'

theorem readAlike_equivalence (name : String) : Equivalence (ReadAlike name) where
  refl _ := ⟨fun _ => rfl, fun _ => rfl, fun _ _ => rfl⟩
  symm same := ⟨fun h => (same.tag h).symm, fun h => (same.articles h).symm, fun h h' => (same.text h h').symm⟩
  trans same same' := ⟨fun h => (same.tag h).trans (same'.tag h), fun h => (same.articles h).trans (same'.articles h),
    fun h h' => (same.text h h').trans (same'.text h h')⟩

theorem IsBlank.readAlike {name : String} {v : Value} (blank : IsBlank name v) : ReadAlike name (some v) none := by
  cases blank with
  | text notTag notArticles => exact ⟨fun h => (notTag h).elim, fun h => (notArticles h).elim, fun _ _ => rfl⟩
  | articles => exact ⟨fun h => absurd h (by decide), fun _ => rfl, fun _ h => (h rfl).elim⟩

theorem SameInside.readAlike {name : String} {v v' : Value} (same : SameInside name v v') :
    ReadAlike name (some v) (some v') := by
  cases same with
  | articles each =>
    exact ⟨fun h => absurd h (by decide), fun _ => mapM_congr_of_forall₂ (fun _ _ alike => alike.ofValue?_eq) each,
      fun _ h => (h rfl).elim⟩

/-- A reply depends on its fields as far as they are read. -/
theorem ofFields?_congr {kind : Kind} {found found' : String → Option Value}
    (same : ∀ name ∈ kind.fieldNames, ReadAlike name (found name) (found' name)) :
    ofFields? kind (kind.fieldNames.map found) = ofFields? kind (kind.fieldNames.map found') := by
  have texts : ∀ name ∈ kind.fieldNames, name ≠ "articles" → fieldText? (found name) = fieldText? (found' name) :=
    fun name mem => (same name mem).text fun tag => kind.tagName_notMem_fieldNames (tag ▸ mem)
  cases kind with
  | news => exact congrArg (Option.map news) ((same "articles" (.head _)).articles rfl)
  | _ =>
    simp only [Kind.fieldNames, List.forall_mem_cons] at texts
    simp (disch := decide) only [Kind.fieldNames, List.map_cons, List.map_nil, ofFields?, texts]

/-- Members that say the same are alike under each name of a kind. -/
theorem agree_of_alike {kind : Kind} {members members' : List (String × Value)}
    (alike : Tree.Alike some (tagName :: kind.fieldNames) IsBlank SameInside members members') :
    ∀ name ∈ tagName :: kind.fieldNames,
      Tree.Agree (ReadAlike name) (Tree.under some name members) (Tree.under some name members') :=
  (alike.agree readAlike_equivalence (fun _ _ => IsBlank.readAlike) fun _ _ _ => SameInside.readAlike).2

/-- Members that say the same tell the same kind. -/
theorem under_tagName_of_alike {kind : Kind} {members members' : List (String × Value)} {v : Value}
    (alike : Tree.Alike some (tagName :: kind.fieldNames) IsBlank SameInside members members')
    (tag : Tree.under some tagName members = [v]) : Tree.under some tagName members' = [v] := by
  obtain ⟨short, same⟩ := agree_of_alike alike tagName (.head _)
  have first := (same (by rw [tag]; rfl)).tag rfl
  rw [tag] at short first
  cases told : Tree.under some tagName members' with
  | nil => rw [told] at first; cases first
  | cons w rest =>
    rw [told] at short first
    obtain rfl : rest = [] := List.length_eq_zero_iff.1 (Nat.le_zero.1 (Nat.le_of_succ_le_succ (short.1 le_rfl)))
    rw [Option.some.inj first]

/-- A reply is also read from members that say the same to a reader of its kind. -/
theorem ofValue?_of_alike {members members' : List (String × Value)} {r : Reply}
    (alike : Tree.Alike some (tagName :: r.kind.fieldNames) IsBlank SameInside members members')
    (read : ofValue? (.object members) = some r) : ofValue? (.object members') = some r := by
  obtain ⟨tag, record, made⟩ := ofValue?_object_eq_some_iff.1 read
  have agree := fun name mem => agree_of_alike alike name (.tail _ mem)
  refine ofValue?_object_eq_some_iff.2 ⟨under_tagName_of_alike alike tag, ⟨fun _ _ => rfl, fun name mem => ?_⟩, ?_⟩
  · exact (agree name mem).1.1 (record.once name mem)
  · rw [← made]
    exact (ofFields?_congr fun name mem => (agree name mem).2 (record.once name mem)).symm

theorem Alike.ofValue?_eq {v v' : Value} (alike : Alike v v') : ofValue? v = ofValue? v' := by
  cases alike with
  | refl => rfl
  | order same =>
    exact Option.ext fun r => ⟨ofValue?_of_alike (.order same), ofValue?_of_alike (.order same.symm)⟩
  | @object members members' kind tag alike =>
    -- Whichever side is read, its kind is the one for which the members are alike.
    have kindOf {r : Reply} (only : Tree.under some tagName members = [.string r.kind.name]) : r.kind = kind := by
      have told : Tree.string kind.name ∈ Tree.under some tagName members := Tree.mem_under_iff.2 ⟨_, tag, rfl⟩
      rw [only, List.mem_singleton] at told
      have found := Kind.ofName?_eq_some_iff.2 (Tree.string.inj told).symm
      rw [Kind.ofName?_name] at found
      exact Option.some.inj found
    refine Option.ext fun r => ⟨fun read => ?_, fun read => ?_⟩
    · obtain rfl := kindOf (ofValue?_object_eq_some_iff.1 read).1
      exact ofValue?_of_alike alike read
    · obtain rfl := kindOf (under_tagName_of_alike alike.symm (ofValue?_object_eq_some_iff.1 read).1)
      exact ofValue?_of_alike alike.symm read

/-- The kind of a reply is told by what it is read from. -/
theorem tags_of_ofValue? {v : Value} {r : Reply} (read : ofValue? v = some r) : Tags v r.kind := by
  cases v with
  | object members =>
    have told : Tree.string r.kind.name ∈ Tree.under some tagName members := by
      rw [(ofValue?_object_eq_some_iff.1 read).1]
      exact List.mem_singleton_self _
    obtain ⟨name, mem, is⟩ := Tree.mem_under_iff.1 told
    exact .member (Option.some.inj is ▸ mem)
  | array items =>
    simp only [ofValue?, Option.bind_eq_bind, Option.bind_eq_some_iff, Prod.exists] at read
    obtain ⟨kind, rest, split, given, -, made⟩ := read
    obtain rfl := kind_of_ofFields? made
    rcases items with _ | ⟨first, others⟩
    · cases split
    · cases first with
      | string name =>
        obtain ⟨kind, found, is⟩ := Option.map_eq_some_iff.1 split
        obtain rfl := (Prod.mk.inj is).1
        rw [Kind.ofName?_eq_some_iff.1 found]
        exact .first
      | _ => cases split
  | _ => cases read

end Reply

namespace Payload

/-- What says as much as nothing under the name of a field. -/
inductive IsBlank : String → Document → Prop
  | replyAll : IsBlank "reply_all" (.bool false)
  | replies : IsBlank "msg_list" (.array [])

/-- Reads an item of the list of replies, which lies inside an array inside an object. -/
def itemValue? (d : Document) : Option Value := d.value? (Json.depthLimit - 2)

def itemReply? (d : Document) : Option Reply := itemValue? d >>= Reply.ofValue?

/-- Two items of the list of replies say the same. -/
def ItemsAlike (d d' : Document) : Prop :=
  d = d' ∨ ∃ v v', itemValue? d = some v ∧ itemValue? d' = some v' ∧ Reply.Alike v v'

/-- Two documents say the same under the name of a field. -/
inductive SameInside : String → Document → Document → Prop
  | replies {items items' : List Document} : List.Forall₂ ItemsAlike items items' →
      SameInside "msg_list" (.array items) (.array items')

/-- Two documents say the same of a payload: the order of members, members of other names and members that say that
replies are sent one by one, or that there are none, make no difference. -/
inductive Alike : Document → Document → Prop
  | refl (d : Document) : Alike d d
  | object {members members' : List (Bytes × Document)} :
      Tree.Alike Json.Quoted.decode fieldNames IsBlank SameInside members members' →
      Alike (.object members) (.object members')

/-- A document lists an item among the replies of a payload. -/
inductive Lists : Document → Document → Prop
  | member {members : List (Bytes × Document)} {key : Bytes} {items : List Document} {item : Document} :
      (key, .array items) ∈ members → Json.Quoted.decode key = some "msg_list" → item ∈ items →
      Lists (.object members) item
  | second {replyAll : Document} {items rest : List Document} {item : Document} : item ∈ items →
      Lists (.array (replyAll :: .array items :: rest)) item

/-- Whether all replies are sent; not so where nothing is said of it. -/
def replyAll? (field : Option Document) : Option Bool := field.elim (some false) Tree.bool?

/-- The replies of a field, none where it is not given. -/
def replies? (field : Option Document) : Option (List Reply) :=
  field.elim (some []) fun given => given.array? >>= List.mapM itemReply?

theorem ofDocument?_of_record {d : Document} {replyAll replies : Option Document}
    (read : Tree.record? Json.Quoted.decode fieldNames d = some [replyAll, replies]) :
    ofDocument? d = do return ⟨← replyAll? replyAll, ← replies? replies⟩ := by
  rw [ofDocument?, ofTree?, read]
  cases replyAll <;> cases replies <;> rfl

theorem ofDocument?_of_record?_eq_none {d : Document} (none : Tree.record? Json.Quoted.decode fieldNames d = none) :
    ofDocument? d = Option.none := by
  rw [ofDocument?, ofTree?, none]
  rfl

/-- Two fields of a name are read alike. -/
structure ReadAlike (name : String) (field field' : Option Document) : Prop where
  replyAll : name = "reply_all" → replyAll? field = replyAll? field'
  replies : name = "msg_list" → replies? field = replies? field'

theorem readAlike_equivalence (name : String) : Equivalence (ReadAlike name) where
  refl _ := ⟨fun _ => rfl, fun _ => rfl⟩
  symm same := ⟨fun h => (same.replyAll h).symm, fun h => (same.replies h).symm⟩
  trans same same' := ⟨fun h => (same.replyAll h).trans (same'.replyAll h),
    fun h => (same.replies h).trans (same'.replies h)⟩

theorem IsBlank.readAlike {name : String} {d : Document} (blank : IsBlank name d) : ReadAlike name (some d) none := by
  cases blank with
  | replyAll => exact ⟨fun _ => rfl, fun h => absurd h (by decide)⟩
  | replies => exact ⟨fun h => absurd h (by decide), fun _ => rfl⟩

theorem ItemsAlike.itemReply?_eq {d d' : Document} (alike : ItemsAlike d d') : itemReply? d = itemReply? d' := by
  obtain rfl | ⟨v, v', read, read', alike⟩ := alike
  · rfl
  · rw [itemReply?, itemReply?, read, read']
    exact alike.ofValue?_eq

theorem SameInside.readAlike {name : String} {d d' : Document} (same : SameInside name d d') :
    ReadAlike name (some d) (some d') := by
  cases same with
  | replies each =>
    exact ⟨fun h => absurd h (by decide), fun _ => mapM_congr_of_forall₂ (fun _ _ alike => alike.itemReply?_eq) each⟩

/-- Documents that differ in the order of members, in members that nobody reads and in members that say as much as
nothing are read as the same payload. -/
theorem Alike.ofDocument?_eq {d d' : Document} (alike : Alike d d') : ofDocument? d = ofDocument? d' := by
  cases alike with
  | refl => rfl
  | @object members members' alike =>
    obtain ⟨none, none'⟩ | ⟨found, found', read, read', same⟩ := alike.record?_cases (by decide)
      readAlike_equivalence (fun _ _ => IsBlank.readAlike) fun _ _ _ => SameInside.readAlike
    · rw [ofDocument?_of_record?_eq_none none, ofDocument?_of_record?_eq_none none']
    · rw [ofDocument?_of_record read, ofDocument?_of_record read', (same "reply_all" (.head _)).replyAll rfl,
        (same "msg_list" (.tail _ (.head _))).replies rfl]

/-- An item that is no reply is none of a payload either. -/
theorem ofDocument?_eq_none_of_lists {d item : Document} (lists : Lists d item) (none : itemReply? item = none) :
    ofDocument? d = Option.none := by
  have refused {items : List Document} {first : Option Document} (mem : item ∈ items)
      (record : Tree.record? Json.Quoted.decode fieldNames d = some [first, some (.array items)]) :
      ofDocument? d = Option.none := by
    have unreadable : replies? (some (.array items)) = Option.none := mapM_eq_none_iff.2 ⟨item, mem, none⟩
    rw [ofDocument?_of_record record, unreadable]
    cases replyAll? first <;> rfl
  cases lists with
  | @member members key items _ listed named mem =>
    cases record : Tree.record? Json.Quoted.decode fieldNames (.object members) with
    | none => exact ofDocument?_of_record?_eq_none record
    | some fields =>
      obtain ⟨is, rfl⟩ := (Tree.record?_object_eq_some_iff (by decide)).1 record
      have only : Tree.under Json.Quoted.decode "msg_list" members = [.array items] :=
        is.under_eq (.tail _ (.head _)) listed named
      rw [fieldNames, List.map_cons, List.map_cons, only] at record
      exact refused mem record
  | @second replyAll items rest _ mem =>
    cases rest with
    | nil => exact refused mem rfl
    | cons _ _ =>
      refine ofDocument?_of_record?_eq_none ?_
      rw [Tree.record?, if_neg (by simp [fieldNames])]

theorem mapM_itemReply? {items : List Document} {values : List Value} (read : items.mapM itemValue? = some values) :
    items.mapM itemReply? = values.mapM Reply.ofValue? := by
  induction items generalizing values with
  | nil => obtain rfl := Option.some.inj read; rfl
  | cons item items ih =>
    simp only [List.mapM_cons, Option.bind_eq_bind, Option.bind_eq_some_iff, Option.pure_def,
      Option.some.injEq] at read
    obtain ⟨v, readItem, values, readItems, rfl⟩ := read
    rw [List.mapM_cons, List.mapM_cons, ih readItems, itemReply?, readItem]
    rfl

/-- What is stored of a payload reads back as it. -/
theorem ofText?_text_toValue (p : Payload) : ofText? p.toValue.text = some p := by
  obtain ⟨ds, written, read⟩ : ∃ ds, Value.documents? (p.replies.map Reply.toValue) = some ds ∧
      ds.mapM itemValue? = some (p.replies.map Reply.toValue) := by
    refine Value.exists_documents? fun v mem => ?_
    obtain ⟨r, _, rfl⟩ := List.mem_map.1 mem
    exact (r.isPlain_toValue 122).exists_document
  have document : p.toValue.document? = some (.object ((fieldNames.map Json.Quoted.written).zip
      [.bool p.replyAll, .array ds])) := by
    simp [toValue, fieldNames, Value.document?, Value.memberDocuments?, written]
  have record : Tree.record? Json.Quoted.decode fieldNames (.object ((fieldNames.map Json.Quoted.written).zip
      [.bool p.replyAll, .array ds])) = _ :=
    Tree.record?_zip _ (fun name _ => Json.Quoted.decode_written name) (by decide) rfl
  have replies : replies? (some (.array ds)) = some p.replies :=
    (mapM_itemReply? read).trans (mapM_eq_some_of_map Reply.ofValue?_toValue p.replies)
  rw [ofText?, Value.ofString?_text _ document]
  simp only [Option.bind_eq_bind, Option.bind_some]
  rw [ofDocument?_of_record record, replies]
  rfl

/-- Stored replies and payloads read back as what was stored, and texts that say the same are read alike. Without a kind
there is no reply, and no payload that lists it. -/
theorem reads_stored :
    (∀ r : Reply, Reply.ofText? r.toValue.text = some r) ∧ (∀ p : Payload, ofText? p.toValue.text = some p) ∧
      (∀ s s' v v', Value.ofText? s = some v → Value.ofText? s' = some v' → Reply.Alike v v' →
        Reply.ofText? s = Reply.ofText? s') ∧
      (∀ s s' d d', Document.ofString? s = some d → Document.ofString? s' = some d' → Alike d d' →
        ofText? s = ofText? s') ∧
      (∀ s v, Value.ofText? s = some v → (∀ kind, ¬ Reply.Tags v kind) → Reply.ofText? s = none) ∧
      ∀ s d item, Document.ofString? s = some d → Lists d item →
        (∀ v kind, itemValue? item = some v → ¬ Reply.Tags v kind) → ofText? s = none := by
  refine ⟨Reply.ofText?_text_toValue, ofText?_text_toValue, ?_, ?_, ?_, ?_⟩
  · intro s s' v v' read read' alike
    rw [Reply.ofText?_eq, Reply.ofText?_eq, read, read']
    exact alike.ofValue?_eq
  · intro s s' d d' read read' alike
    rw [ofText?, ofText?, read, read']
    exact alike.ofDocument?_eq
  · intro s v read untagged
    rw [Reply.ofText?_eq, read]
    exact Option.eq_none_iff_forall_ne_some.2 fun r made => untagged _ (Reply.tags_of_ofValue? made)
  · intro s d item read lists untagged
    have none : itemReply? item = none := by
      refine Option.eq_none_iff_forall_ne_some.2 fun r made => ?_
      obtain ⟨v, readItem, made⟩ := Option.bind_eq_some_iff.1 made
      exact untagged v _ readItem (Reply.tags_of_ofValue? made)
    rw [ofText?, read]
    exact ofDocument?_eq_none_of_lists lists none

/-- A kind that comes last, after a member of another name; a payload without what says as much as nothing. -/
theorem reads_stored_of_lateTag :
    Reply.ofText? "\x7b\"extra\":[1],\"content\":\"hi\",\"msg_type\":\"text\"\x7d" = some (.text "hi") ∧
      ofText? "\x7b\"extra\":1e999,\"msg_list\":[\x7b\"msg_type\":\"text\"\x7d]\x7d" = some ⟨false, [.text ""]⟩ ∧
      Reply.ofText? "\x7b\"content\":\"hi\",\"msg_type\":\"hi\"\x7d" = none ∧
      ofText? "\x7b\"msg_list\":[\x7b\"content\":\"hi\"\x7d]\x7d" = none := by
  obtain ⟨reply, payload, alike, alikePayload, untagged, untaggedItem⟩ := reads_stored
  refine ⟨?_, ?_, ?_, ?_⟩
  · rw [← reply (.text "hi")]
    refine alike _ _ (.object [("extra", .array [.number (.integer 1)]), ("content", .string "hi"),
      ("msg_type", .string "text")]) _ rfl (Reply.isPlain_toValue _ 124).ofText?_eq ?_
    exact @Reply.Alike.object _ _ .text (.tail _ (.tail _ (.head _)))
      (.trans (.other rfl (by decide)) (.order (.swap ..)))
  · rw [← payload ⟨false, [.text ""]⟩]
    have item : Reply.Alike (.object [("msg_type", .string "text")]) (Reply.text "").toValue :=
      @Reply.Alike.object _ _ .text (.head _) (.symm (.trans (.order (.swap ..))
        (.blank rfl (.text (by decide) (by decide)) (by decide))))
    let key (name : String) : Bytes := Bytes.ofString name
    let kind : Bytes × Document := (key "msg_type", .string (key "text"))
    refine alikePayload _ _ _ (.object [(key "reply_all", .bool false),
      (key "msg_list", .array [.object [kind, (key "content", .string [])]])]) rfl rfl (.object ?_)
    have inside : SameInside "msg_list" (.array [.object [kind]])
        (.array [.object [kind, (key "content", .string [])]]) :=
      .replies (.cons (.inr ⟨_, _, rfl, rfl, item⟩) .nil)
    exact .trans (.other rfl (by decide)) (.trans (.inside rfl rfl inside)
      (.symm (.blank rfl .replyAll (by decide +kernel))))
  · refine untagged _ (.object [("content", .string "hi"), ("msg_type", .string "hi")]) rfl fun kind tags => ?_
    cases tags with
    | member told => cases kind <;> simp [Reply.tagName, Reply.Kind.name] at told
  · refine untaggedItem _ _ _ rfl (.member (.head _) (by decide +kernel) (.head _)) fun v kind read tags => ?_
    obtain rfl : .object [("content", .string "hi")] = v := Option.some.inj read
    cases tags with
    | member told => simp [Reply.tagName] at told

/-- A member of another name matters all the same if what it holds cannot be read. -/
theorem not_reads_unknown_members :
    ¬ ∀ (s s' : String) (members : List (Bytes × Document)) (key : Bytes) (d : Document) (name : String),
        Document.ofString? s = some (.object members) →
        Document.ofString? s' = some (.object (members ++ [(key, d)])) → Json.Quoted.decode key = some name →
        name ≠ Reply.tagName → (∀ kind, name ∉ Reply.Kind.fieldNames kind) → Reply.ofText? s' = Reply.ofText? s := by
  intro reads
  have same := reads "\x7b\"msg_type\":\"text\",\"content\":\"hi\"\x7d"
    "\x7b\"msg_type\":\"text\",\"content\":\"hi\",\"extra\":1e999\x7d" _ _ _ "extra" rfl rfl rfl (by decide)
    fun kind => by cases kind <;> decide
  exact absurd same (by decide +kernel)

end Payload
end ReplyGateway
