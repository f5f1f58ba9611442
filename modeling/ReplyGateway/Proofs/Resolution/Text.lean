import Mathlib
import ReplyGateway.Proofs.Resolution.Isolation

namespace ReplyGateway

namespace Store.RuleRow

/-- A rule with a payload and keywords that can be read, of which one is the text or, if that is enough, occurs in it.
-/
def Means (row : RuleRow) (text : String) : Prop :=
  row.replyData ≠ "" ∧ ∃ keywords, Keyword.listOfText? row.keywordData = some keywords ∧
    ∃ k ∈ keywords, if k.exact then text = k.keyword else k.keyword.toList <:+: text.toList

/-- The first of some rules that means a text. What comes after it may be anything. -/
def IsFirst (row : RuleRow) (rows : List RuleRow) (text : String) : Prop :=
  row.Means text ∧ ∃ before after, rows = before ++ row :: after ∧ ∀ earlier ∈ before, ¬ earlier.Means text

variable {row other : RuleRow} {rows : List RuleRow} {text : String}

theorem means_iff : row.Means text ↔
    (row.replyData ≠ "" && (Keyword.listOfText? row.keywordData).any fun ks => ks.any (·.isMatch text)) = true := by
  simp only [Means, Bool.and_eq_true, decide_eq_true_eq, Option.any_eq_true, List.any_eq_true, Keyword.isMatch_iff]

instance : Decidable (row.Means text) := decidable_of_iff _ means_iff.symm

/-- The rule that is found is the first one that means the text. -/
theorem find?_eq_some_iff_isFirst :
    rows.find? (fun row => decide (row.Means text)) = some row ↔ row.IsFirst rows text := by
  rw [List.find?_eq_some_iff_append, IsFirst, decide_eq_true_eq]
  simp only [Bool.not_eq_true', decide_eq_false_iff_not]

end Store.RuleRow

namespace Configuration

/-- Whether the rules of a category can be read, if they are asked for at all. -/
def CanRead (c : Configuration) (tenantId : String) (category : Category) : Prop :=
  c.isEnabled tenantId category = true →
    ∀ row ∈ c.database.rules.select tenantId category, row.rule?.isSome = true

/-- The replies to messages in general: those of the first rule, if it gives any and they are switched on. -/
def generalReplies (c : Configuration) (tenantId : String) (draw : Nat) : List Reply :=
  if c.isEnabled tenantId .message then
    match c.database.rules.select tenantId .message with
    | [] => []
    | row :: _ =>
      if row.replyData = "" then []
      else
        match Payload.ofText? row.replyData with
        | none => []
        | some p => p.select draw
  else []

end Configuration

namespace Resolution

open Store (RuleRow)

variable {c : Configuration} {tenantId text : String}

theorem keyword?_of_rows (enabled : c.isEnabled tenantId .keyword = true) (readable : c.CanRead tenantId .keyword) :
    keyword? c tenantId text =
      .ok (((c.database.rules.select tenantId .keyword).find? fun row => decide (row.Means text)).bind
        fun row => Payload.ofText? row.replyData) := by
  rw [keyword?_of_enabled text enabled, Configuration.contents_of_select (readable enabled), Except.map,
    List.find?_map, Option.bind_map]
  simp only [RuleRow.means_iff, Bool.decide_eq_true]
  rfl

theorem single?_of_rows {category : Category} (enabled : c.isEnabled tenantId category = true)
    (readable : c.CanRead tenantId category) :
    single? c tenantId category =
      .ok ((c.database.rules.select tenantId category).head?.bind fun row => Payload.ofText? row.replyData) := by
  rw [single?_of_enabled enabled, Configuration.contents_of_select (readable enabled), Except.map, List.head?_map,
    Option.bind_map]
  rfl

/-- The payload of the rule that decides, where there is one with a payload that can be read. -/
theorem exists_keyword?_eq (text : String) (enabled : c.isEnabled tenantId .keyword = true)
    (readable : c.CanRead tenantId .keyword) :
    ∃ found, keyword? c tenantId text = .ok found ∧ ∀ p, found = some p ↔
      ∃ row : RuleRow, row.IsFirst (c.database.rules.select tenantId .keyword) text ∧
        Payload.ofText? row.replyData = some p := by
  refine ⟨_, keyword?_of_rows enabled readable, fun p => ?_⟩
  simp only [Option.bind_eq_some_iff, RuleRow.find?_eq_some_iff_isFirst]

/-- An empty text is no payload. -/
theorem ofText?_empty : Payload.ofText? "" = none := by decide +kernel

/-- The replies to messages in general can be told without an error. -/
theorem single?_message (readable : c.CanRead tenantId .message) :
    ∃ found, single? c tenantId .message = .ok found ∧
      ∀ draw, found.elim [] (·.select draw) = c.generalReplies tenantId draw := by
  cases enabled : c.isEnabled tenantId .message with
  | false => exact ⟨none, single?_of_disabled enabled, fun draw => by simp [Configuration.generalReplies, enabled]⟩
  | true =>
    refine ⟨_, single?_of_rows enabled readable, fun draw => ?_⟩
    rw [Configuration.generalReplies, if_pos enabled]
    cases c.database.rules.select tenantId .message with
    | nil => rfl
    | cons row rest =>
      rw [List.head?_cons, Option.bind_some]
      by_cases empty : row.replyData = ""
      · simp [empty, ofText?_empty]
      · cases read : Payload.ofText? row.replyData <;> simp [empty, read]

/-- A payload of keywords that holds replies is the one for the text. -/
theorem text?_of_keyword? {p : Payload} (found : keyword? c tenantId text = .ok (some p)) (given : p.replies ≠ []) :
    text? c tenantId text = .ok (some p) := by
  simp only [text?, found, bind, Except.bind, Option.filter_some, List.isEmpty_eq_false_iff.2 given, Bool.not_false,
    if_true]
  rfl

/-- Without such a payload, a text is answered as messages in general are. -/
theorem text?_of_silent {found : Option Payload} (none : keyword? c tenantId text = .ok found)
    (silent : ∀ p, found = some p → p.replies = []) : text? c tenantId text = single? c tenantId .message := by
  have dropped : found.filter (fun p => !p.replies.isEmpty) = .none := by
    cases found with
    | none => rfl
    | some p => simp [silent p rfl]
  simp only [text?, none, bind, Except.bind, dropped]

theorem replies_of_text {m : Inbound.Message} {id : Int} (said : m.content = .text text id) (draw : Nat) :
    replies c tenantId m draw = (text? c tenantId text).map fun p => p.elim [] (·.select draw) := by
  simp only [replies, payload?, said]

/-- What the replies to a text are. Where keywords are switched on, the first rule that means the text is looked for:
one with a payload, and with keywords that can be read, of which one is the text or occurs in it. If its payload can
be read and holds replies, they are taken from it, whatever the rules after it are. In all other cases the replies are
those to messages in general. -/
theorem replies_to_text {m : Inbound.Message} {id : Int} (said : m.content = .text text id)
    (keywords : c.CanRead tenantId .keyword) (messages : c.CanRead tenantId .message) (draw : Nat) :
    let decides (row : RuleRow) (p : Payload) := c.isEnabled tenantId .keyword = true ∧
      row.IsFirst (c.database.rules.select tenantId .keyword) text ∧ Payload.ofText? row.replyData = some p
    (∀ row p, decides row p → p.replies ≠ [] → replies c tenantId m draw = .ok (p.select draw)) ∧
      ((∀ row p, decides row p → p.replies = []) →
        replies c tenantId m draw = .ok (c.generalReplies tenantId draw)) := by
  intro decides
  obtain ⟨found, read, iff⟩ : ∃ found, keyword? c tenantId text = .ok found ∧
      ∀ p, found = some p ↔ ∃ row, decides row p := by
    cases enabled : c.isEnabled tenantId .keyword with
    | false => exact ⟨none, keyword?_of_disabled text enabled, by simp [decides, enabled]⟩
    | true =>
      obtain ⟨found, read, iff⟩ := exists_keyword?_eq text enabled keywords
      exact ⟨found, read, fun p => (iff p).trans (by simp [decides, enabled])⟩
  constructor
  · intro row p decided given
    obtain rfl := (iff p).2 ⟨row, decided⟩
    rw [replies_of_text said, text?_of_keyword? read given]
    rfl
  · intro silent
    have none (p : Payload) (same : found = some p) : p.replies = [] := by
      obtain ⟨row, decided⟩ := (iff p).1 same
      exact silent row p decided
    obtain ⟨general, single, same⟩ := single?_message messages
    rw [replies_of_text said, text?_of_silent read none, single, ← same]
    rfl

/-- The first rule is empty, the second has broken keywords, the third wants the whole text to be another, and the
fourth is for all texts. Without keywords, the text is answered in general. -/
theorem replies_to_text_of_broken_keywords :
    let payload (content : String) :=
      "\x7b\"reply_all\":true,\"msg_list\":[\x7b\"msg_type\":\"text\",\"content\":\"" ++ content ++ "\"\x7d]\x7d"
    let row (id : Nat) (category : Category) (replyData keywordData : String) : RuleRow :=
      ⟨id, "wx1", category, "", replyData, keywordData, "", "", "2024-01-01T00:00:00Z"⟩
    let rows : List RuleRow :=
      [row 1 .keyword "" "[\x7b\"keyword\":\"hi\"\x7d]", row 2 .keyword (payload "broken") "hi",
        row 3 .keyword (payload "exact") "[\x7b\"keyword\":\"hi there\",\"exact\":true\x7d]",
        row 4 .keyword (payload "any") "[\x7b\"keyword\":\"\"\x7d]",
        row 5 .keyword (payload "late") "[\x7b\"keyword\":\"hi\",\"exact\":true\x7d]",
        row 6 .message (payload "general") ""]
    let flags := Table.empty.put ("wx1", Category.message) true
    let c : Configuration :=
      ⟨⟨.current, .empty, flags.put ("wx1", .keyword) true, ⟨rows, 6, by decide, by decide⟩⟩, none⟩
    let c' : Configuration := ⟨⟨.current, .empty, flags, ⟨rows, 6, by decide, by decide⟩⟩, none⟩
    let m : Inbound.Message := ⟨"gh_tenant", "o_user", 1700000000, .text "hi" 42⟩
    m.content = .text "hi" 42 ∧ c.CanRead "wx1" .keyword ∧ c.CanRead "wx1" .message ∧
      c'.CanRead "wx1" .keyword ∧ c'.CanRead "wx1" .message ∧
      replies c "wx1" m 0 = .ok [.text "any"] ∧ replies c' "wx1" m 0 = .ok [.text "general"] := by
  intro payload row rows flags c c' m
  have keywords : c.CanRead "wx1" .keyword := fun _ => by decide +kernel
  have messages : c.CanRead "wx1" .message := fun _ => by decide +kernel
  have off : c'.isEnabled "wx1" .keyword = false := by decide +kernel
  have keywords' : c'.CanRead "wx1" .keyword := fun on => by rw [off] at on; cases on
  have messages' : c'.CanRead "wx1" .message := fun _ => by decide +kernel
  have first : RuleRow.IsFirst (row 4 .keyword (payload "any") "[\x7b\"keyword\":\"\"\x7d]")
      (c.database.rules.select "wx1" .keyword) "hi" :=
    ⟨by decide +kernel, rows.take 3, [rows[4]], by decide +kernel, by decide +kernel⟩
  refine ⟨rfl, keywords, messages, keywords', messages', ?_, ?_⟩
  · have read : Payload.ofText? (payload "any") = some ⟨true, [.text "any"]⟩ := by decide +kernel
    exact (replies_to_text rfl keywords messages 0).1 _ _ ⟨by decide +kernel, first, read⟩ (by simp)
  · have general : c'.generalReplies "wx1" 0 = [.text "general"] := by decide +kernel
    rw [← general]
    refine (replies_to_text rfl keywords' messages' 0).2 fun row p decides => ?_
    rw [off] at decides
    cases decides.1

end Resolution
end ReplyGateway
