import Mathlib
import ReplyGateway.Inbound.Form
import ReplyGateway.Text.Integer

namespace ReplyGateway.Inbound

theorem Field.nodup_all : Field.all.Nodup := by decide

theorem Field.mem_all (f : Field) : f ∈ Field.all := by cases f <;> decide

namespace Form

/-- No field is given twice. -/
def IsOnce (form : Form) : Prop := (form.map Prod.fst).Nodup

instance (form : Form) : Decidable form.IsOnce := inferInstanceAs (Decidable (form.map Prod.fst).Nodup)

theorem lookup_eq_none_iff {form : Form} {f : Field} : form.lookup f = none ↔ f ∉ form.map Prod.fst := by
  rw [List.lookup_eq_none_iff, List.mem_map]
  constructor
  · rintro none ⟨p, mem, rfl⟩
    simpa using none p mem
  · intro notIn p mem
    exact bne_iff_ne.2 fun same => notIn ⟨p, mem, same.symm⟩

theorem lookup_cons_of_ne {f g : Field} (other : f ≠ g) (entry : Entry) (form : Form) :
    List.lookup f ((g, entry) :: form) = form.lookup f := by
  simp [List.lookup_cons, beq_eq_false_iff_ne.2 other]

/-- Where no field is given twice, every entry is found. -/
theorem IsOnce.lookup_eq_some_iff {form : Form} (once : form.IsOnce) {f : Field} {entry : Entry} :
    form.lookup f = some entry ↔ (f, entry) ∈ form := by
  induction form with
  | nil => simp
  | cons p form ih =>
    obtain ⟨g, given⟩ := p
    obtain ⟨notIn, once⟩ := List.nodup_cons.1 once
    by_cases same : f = g
    · subst same
      have absent : (f, entry) ∉ form := fun mem => notIn (List.mem_map.2 ⟨_, mem, rfl⟩)
      rw [List.lookup_cons_self, List.mem_cons]
      simp [absent, eq_comm]
    · rw [lookup_cons_of_ne same, ih once, List.mem_cons]
      simp [same]

/-- The order of the entries does not matter. -/
theorem IsOnce.lookup_eq_of_perm {form form' : Form} (once : form.IsOnce) (same : form.Perm form') (f : Field) :
    form.lookup f = form'.lookup f := by
  have once' : form'.IsOnce := (same.map Prod.fst).nodup_iff.1 once
  ext entry
  rw [once.lookup_eq_some_iff, once'.lookup_eq_some_iff, same.mem_iff]

/-- The form in the order of the fields. -/
def arranged (form : Form) : Form := Field.all.filterMap fun f => (form.lookup f).map (f, ·)

theorem lookup_filterMap {fields : List Field} (nodup : fields.Nodup) (given : Field → Option Entry) {f : Field}
    (mem : f ∈ fields) : (fields.filterMap fun g => (given g).map (g, ·)).lookup f = given f := by
  induction fields with
  | nil => cases mem
  | cons g fields ih =>
    obtain ⟨notIn, nodup⟩ := List.nodup_cons.1 nodup
    by_cases same : f = g
    · subst same
      cases entry : given f with
      | some e => rw [List.filterMap_cons_some (by rw [entry]; rfl), List.lookup_cons_self]
      | none =>
        rw [List.filterMap_cons_none (by rw [entry]; rfl), lookup_eq_none_iff]
        intro inside
        obtain ⟨p, member, rfl⟩ := List.mem_map.1 inside
        obtain ⟨h, memFields, found⟩ := List.mem_filterMap.1 member
        obtain ⟨e, _, rfl⟩ := Option.map_eq_some_iff.1 found
        exact notIn memFields
    · have left := ih nodup (List.mem_of_ne_of_mem same mem)
      cases entry : given g with
      | some e => rw [List.filterMap_cons_some (by rw [entry]; rfl), lookup_cons_of_ne same, left]
      | none => rw [List.filterMap_cons_none (by rw [entry]; rfl), left]

/-- To arrange a form does not change what it says. -/
theorem lookup_arranged (form : Form) (f : Field) : form.arranged.lookup f = form.lookup f :=
  lookup_filterMap Field.nodup_all (fun g => form.lookup g) f.mem_all

/-- A message says no more than what is in each field. -/
theorem message?_congr {form form' : Form} (same : ∀ f, form.lookup f = form'.lookup f) :
    form.message? = form'.message? := by
  have texts : form.text = form'.text := funext fun f => by rw [text, text, same]
  have numbers : form.number = form'.number := funext fun f => by rw [number, number, same]
  have contents : form.content = form'.content := funext fun kind => by
    cases kind <;> simp only [content, texts, numbers]
  rw [message?, message?, texts, numbers, contents]

theorem message?_arranged (form : Form) : form.arranged.message? = form.message? :=
  message?_congr (lookup_arranged form)

end Form

/-- Whether an entry is what a field of a shape holds. -/
def Entry.Fits : Entry → Shape → Prop
  | .text _, shape => shape ≠ .number
  | .number n, shape => shape = .number ∧ isInt64 n = true

instance : (entry : Entry) → (shape : Shape) → Decidable (entry.Fits shape)
  | .text _, shape => inferInstanceAs (Decidable (shape ≠ .number))
  | .number n, shape => inferInstanceAs (Decidable (shape = .number ∧ isInt64 n = true))

/-- The fields of all messages, and those that only messages of a kind have. -/
def Kind.fields (kind : Kind) : List Field :=
  [.toUserName, .fromUserName, .createTime, .msgType] ++
    match kind with
    | .text => [.content, .msgId]
    | .image => [.picUrl, .mediaId, .msgId]
    | .voice => [.mediaId, .format, .mediaId16K, .msgId]
    | .video | .shortVideo => [.mediaId, .thumbMediaId, .msgId]
    | .location => [.locationX, .locationY, .scale, .label, .msgId]
    | .link => [.title, .description, .url, .msgId]
    | .event => [.event, .eventKey, .ticket]

/-- What a message carries, field by field. -/
def Message.form (m : Message) : Form :=
  [(.toUserName, .text m.toUser), (.fromUserName, .text m.fromUser), (.createTime, .number m.createTime),
      (.msgType, .text m.kind.name)] ++
    match m.content with
    | .text content id => [(.content, .text content), (.msgId, .number id)]
    | .image pictureUrl mediaId id => [(.picUrl, .text pictureUrl), (.mediaId, .text mediaId), (.msgId, .number id)]
    | .voice mediaId format mediaId16K id =>
      [(.mediaId, .text mediaId), (.format, .text format), (.mediaId16K, .text mediaId16K), (.msgId, .number id)]
    | .video mediaId thumbMediaId id | .shortVideo mediaId thumbMediaId id =>
      [(.mediaId, .text mediaId), (.thumbMediaId, .text thumbMediaId), (.msgId, .number id)]
    | .location latitude longitude scale label id =>
      [(.locationX, .text latitude), (.locationY, .text longitude), (.scale, .text scale), (.label, .text label),
        (.msgId, .number id)]
    | .link title description url id =>
      [(.title, .text title), (.description, .text description), (.url, .text url), (.msgId, .number id)]
    | .event event key ticket => [(.event, .text event), (.eventKey, .text key), (.ticket, .text ticket)]

theorem Message.form_inj {m m' : Message} (same : m.form = m'.form) : m = m' := by
  obtain ⟨toUser, fromUser, createTime, content⟩ := m
  obtain ⟨toUser', fromUser', createTime', content'⟩ := m'
  cases content <;> cases content' <;> simp [form, Message.kind, Content.kind, Kind.name] at same ⊢
  all_goals simp [same]

/-- What a field holds where it is not given. -/
def Field.blank (f : Field) : Entry :=
  match f.shape with
  | .number => .number 0
  | _ => .text ""

namespace Form

/-- What a form says of a field. -/
def entry (form : Form) (f : Field) : Entry := (form.lookup f).getD f.blank

/-- What a form says of a field is what the field may hold. -/
def IsFitting (form : Form) : Prop := ∀ p ∈ form, p.2.Fits p.1.shape

variable {form : Form}

theorem text_eq_entry (once : form.IsOnce) (fitting : form.IsFitting) {f : Field} (shape : f.shape ≠ .number) :
    .text (form.text f) = form.entry f := by
  rw [text, entry]
  cases found : form.lookup f with
  | none =>
    simp only [Option.getD_none, Field.blank]
  | some given =>
    have fits := fitting _ (once.lookup_eq_some_iff.1 found)
    cases given with
    | text s => rfl
    | number n => exact (shape fits.1).elim

theorem number_eq_entry (once : form.IsOnce) (fitting : form.IsFitting) {f : Field} (shape : f.shape = .number) :
    .number (form.number f) = form.entry f := by
  rw [number, entry]
  cases found : form.lookup f with
  | none => simp only [Option.getD_none, Field.blank, shape]
  | some given =>
    have fits := fitting _ (once.lookup_eq_some_iff.1 found)
    cases given with
    | text s => exact (fits shape).elim
    | number n => rfl

/-- The message of a form that is of a kind. -/
def messageOf (form : Form) (kind : Kind) : Message :=
  ⟨form.text .toUserName, form.text .fromUserName, form.number .createTime, form.content kind⟩

theorem message?_eq_map (form : Form) : form.message? = (Kind.ofName? (form.text .msgType)).map form.messageOf := rfl

theorem kind_messageOf (form : Form) (kind : Kind) : (form.messageOf kind).kind = kind := form.kind_content kind

/-- A message carries what its form gives in the fields of its kind. -/
theorem form_messageOf (once : form.IsOnce) (fitting : form.IsFitting) {kind : Kind}
    (named : form.text .msgType = kind.name) :
    (form.messageOf kind).form = kind.fields.map fun f => (f, form.entry f) := by
  rw [Message.form, kind_messageOf, ← named]
  cases kind <;>
    simp (disch := decide) only [messageOf, content, Kind.fields, List.map_append, List.map_cons, List.map_nil,
      ← text_eq_entry once fitting, ← number_eq_entry once fitting]

/-- The kind that a form names, if it names one. -/
theorem text_msgType_eq_iff (once : form.IsOnce) (fitting : form.IsFitting) {kind : Kind} :
    form.text .msgType = kind.name ↔ form.lookup .msgType = some (.text kind.name) := by
  have same := text_eq_entry once fitting (f := .msgType) (by decide)
  have blank : Field.blank .msgType = .text "" := rfl
  have named : kind.name ≠ "" := by cases kind <;> decide
  rw [entry, blank] at same
  cases found : form.lookup .msgType with
  | none =>
    rw [found, Option.getD_none, Entry.text.injEq] at same
    simp [same, Ne.symm named]
  | some given =>
    rw [found, Option.getD_some] at same
    simp [← same]

/-- A message is read of a form if it carries what the form gives in the fields of its kind, and nothing else. -/
theorem message?_eq_some_iff (once : form.IsOnce) (fitting : form.IsFitting) {m : Message} :
    form.message? = some m ↔ m.form = m.kind.fields.map fun f => (f, form.entry f) := by
  rw [message?_eq_map, Option.map_eq_some_iff]
  constructor
  · rintro ⟨kind, found, rfl⟩
    rw [kind_messageOf]
    exact form_messageOf once fitting (Kind.name_of_ofName? found).symm
  · intro carries
    have named : form.text .msgType = m.kind.name := by
      have listed : (Field.msgType, Entry.text m.kind.name) ∈ m.form := by simp [Message.form]
      rw [carries] at listed
      obtain ⟨f, _, same⟩ := List.mem_map.1 listed
      obtain ⟨rfl, given⟩ := Prod.ext_iff.1 same
      exact Entry.text.inj ((text_eq_entry once fitting (by decide)).trans given)
    refine ⟨m.kind, by rw [named, Kind.ofName?_name], Message.form_inj ?_⟩
    rw [form_messageOf once fitting named, carries]

/-- There is no message if and only if no kind is named. -/
theorem message?_eq_none_iff (once : form.IsOnce) (fitting : form.IsFitting) :
    form.message? = none ↔ ∀ kind : Kind, form.lookup .msgType ≠ some (.text kind.name) := by
  rw [message?_eq_map, Option.map_eq_none_iff]
  constructor
  · intro unknown kind found
    rw [(text_msgType_eq_iff once fitting).2 found, Kind.ofName?_name] at unknown
    cases unknown
  · intro unnamed
    cases found : Kind.ofName? (form.text .msgType) with
    | none => rfl
    | some kind => exact (unnamed kind ((text_msgType_eq_iff once fitting).1 (Kind.name_of_ofName? found).symm)).elim

end Form
end ReplyGateway.Inbound
