import Mathlib
import ReplyGateway.Resolution

namespace ReplyGateway

namespace Store

/-- What a rule says, without its number, its instant and its texts for administrators. -/
def RuleRow.content (row : RuleRow) : Category × String × String := (row.category, row.replyData, row.keywordData)

/-- The rows of a tenant in some of the categories, in the order of their numbers. -/
def RuleTable.among (t : RuleTable) (tenantId : String) (categories : Category → Bool) : List RuleRow :=
  t.rows.filter fun row => row.tenantId == tenantId && categories row.category

/-- Categories that a message asks for are found among these. -/
theorem RuleTable.select_eq_filter_among (t : RuleTable) (tenantId : String) {categories : Category → Bool}
    {category : Category} (member : categories category = true) :
    t.select tenantId category = (t.among tenantId categories).filter fun row => row.category == category := by
  rw [select, among, List.filter_filter]
  refine List.filter_congr fun row _ => ?_
  by_cases same : row.category = category
  · simp [same, member]
  · have other : (row.category == category) = false := beq_false_of_ne same
    simp [other]

end Store

/-- What a rule says of the replies it holds. -/
def Rule.content (r : Rule) : Category × String × String := (r.category, r.replyData, r.keywordData)

theorem Store.RuleRow.content_of_rule? {row : RuleRow} {r : Rule} (read : row.rule? = some r) :
    r.content = row.content := by
  obtain ⟨_, _, rfl⟩ := Option.map_eq_some_iff.1 read
  rfl

/-- Rows that can be read give rules that say the same as they do. -/
theorem Store.mapM_rule?_of_readable {rows : List RuleRow} (readable : ∀ row ∈ rows, row.rule?.isSome = true) :
    ∃ rules, rows.mapM RuleRow.rule? = some rules ∧ rules.map Rule.content = rows.map RuleRow.content := by
  induction rows with
  | nil => exact ⟨[], rfl, rfl⟩
  | cons row rows ih =>
    obtain ⟨rules, read, same⟩ := ih fun r mem => readable r (.tail _ mem)
    obtain ⟨r, first⟩ := Option.isSome_iff_exists.1 (readable row (.head _))
    refine ⟨r :: rules, by simp [first, read], ?_⟩
    rw [List.map_cons, List.map_cons, same, RuleRow.content_of_rule? first]

namespace Configuration

/-- What the rules of a category say, or why they cannot be read. -/
def contents (c : Configuration) (tenantId : String) (category : Category) :
    Except Error (List (Category × String × String)) :=
  (c.rules tenantId category).map (List.map Rule.content)

/-- Two configurations have rules in some categories that can be read, and that say the same in the same order. -/
structure SaySame (c c' : Configuration) (tenantId : String) (categories : Category → Bool) : Prop where
  readable : ∀ row ∈ c.database.rules.among tenantId categories, row.rule?.isSome = true
  readable' : ∀ row ∈ c'.database.rules.among tenantId categories, row.rule?.isSome = true
  contents : (c.database.rules.among tenantId categories).map Store.RuleRow.content =
    (c'.database.rules.among tenantId categories).map Store.RuleRow.content

theorem contents_of_select {c : Configuration} {tenantId : String} {category : Category}
    (readable : ∀ row ∈ c.database.rules.select tenantId category, row.rule?.isSome = true) :
    c.contents tenantId category =
      .ok ((c.database.rules.select tenantId category).map Store.RuleRow.content) := by
  obtain ⟨rules, read, same⟩ := Store.mapM_rule?_of_readable readable
  have found : c.rules tenantId category = .ok rules := by
    simp only [Configuration.rules, Store.Database.listRules, read]
    rfl
  rw [contents, found, ← same]
  rfl

/-- Where all rows can be read, the rules of each category say what its rows do. -/
theorem contents_of_readable {c : Configuration} {tenantId : String} {categories : Category → Bool}
    (readable : ∀ row ∈ c.database.rules.among tenantId categories, row.rule?.isSome = true) {category : Category}
    (member : categories category = true) :
    c.contents tenantId category =
      .ok (((c.database.rules.among tenantId categories).map Store.RuleRow.content).filter (·.1 == category)) := by
  have selected := c.database.rules.select_eq_filter_among tenantId member
  rw [contents_of_select fun row mem => readable row (List.mem_filter.1 (selected ▸ mem)).1, selected, List.filter_map]
  rfl

theorem SaySame.contents_eq {c c' : Configuration} {tenantId : String} {categories : Category → Bool}
    (same : SaySame c c' tenantId categories) {category : Category} (member : categories category = true) :
    c.contents tenantId category = c'.contents tenantId category := by
  rw [contents_of_readable same.readable member, contents_of_readable same.readable' member, same.contents]

end Configuration

namespace Resolution

variable {c c' : Configuration} {tenantId : String}

/-- What depends on rules by what they say is computed from their contents. -/
theorem bind_rules_eq_map_contents {α : Type} {f : List Rule → α} {g : List (Category × String × String) → α}
    (factors : ∀ rules, f rules = g (rules.map Rule.content)) (c : Configuration) (tenantId : String)
    (category : Category) :
    (do return f (← c.rules tenantId category) : Except Error α) = (c.contents tenantId category).map g := by
  rw [Configuration.contents]
  cases c.rules tenantId category with
  | error e => rfl
  | ok rules => exact congrArg Except.ok (factors rules)

theorem single?_of_enabled {category : Category} (enabled : c.isEnabled tenantId category = true) :
    single? c tenantId category =
      (c.contents tenantId category).map fun contents =>
        contents.head?.bind fun content => Payload.ofText? content.2.1 := by
  rw [single?, if_pos enabled]
  refine bind_rules_eq_map_contents (fun rules => ?_) c tenantId category
  rw [List.head?_map, Option.bind_map]
  rfl

theorem single?_of_disabled {category : Category} (disabled : c.isEnabled tenantId category = false) :
    single? c tenantId category = .ok none := by
  rw [single?, disabled]
  rfl

theorem keyword?_of_enabled (text : String) (enabled : c.isEnabled tenantId .keyword = true) :
    keyword? c tenantId text =
      (c.contents tenantId .keyword).map fun contents =>
        (contents.find? fun content => content.2.1 ≠ "" &&
          (Keyword.listOfText? content.2.2).any fun ks => ks.any (·.isMatch text)).bind
            fun content => Payload.ofText? content.2.1 := by
  rw [keyword?, if_pos enabled]
  refine bind_rules_eq_map_contents (fun rules => ?_) c tenantId .keyword
  rw [List.find?_map, Option.bind_map]
  rfl

theorem keyword?_of_disabled (text : String) (disabled : c.isEnabled tenantId .keyword = false) :
    keyword? c tenantId text = .ok none := by
  rw [keyword?, disabled]
  rfl

/-- The menus decide by what they say. There is no flag for them. -/
theorem menu?_eq_map_contents (c : Configuration) (tenantId key : String) :
    menu? c tenantId key =
      (c.contents tenantId .menuClick).map fun contents =>
        contents.findSome? fun content => (menuPayload? key content.2.1).join := by
  refine bind_rules_eq_map_contents (fun rules => ?_) c tenantId .menuClick
  rw [List.findSome?_map]
  rfl

theorem single?_congr {category : Category} (flag : c.isEnabled tenantId category = c'.isEnabled tenantId category)
    (same : c.isEnabled tenantId category = true → c.contents tenantId category = c'.contents tenantId category) :
    single? c tenantId category = single? c' tenantId category := by
  cases enabled : c.isEnabled tenantId category with
  | true => rw [single?_of_enabled enabled, single?_of_enabled (flag ▸ enabled), same enabled]
  | false => rw [single?_of_disabled enabled, single?_of_disabled (flag ▸ enabled)]

theorem keyword?_congr (text : String) (flag : c.isEnabled tenantId .keyword = c'.isEnabled tenantId .keyword)
    (same : c.isEnabled tenantId .keyword = true → c.contents tenantId .keyword = c'.contents tenantId .keyword) :
    keyword? c tenantId text = keyword? c' tenantId text := by
  cases enabled : c.isEnabled tenantId .keyword with
  | true => rw [keyword?_of_enabled text enabled, keyword?_of_enabled text (flag ▸ enabled), same enabled]
  | false => rw [keyword?_of_disabled text enabled, keyword?_of_disabled text (flag ▸ enabled)]

theorem menu?_congr (key : String) (same : c.contents tenantId .menuClick = c'.contents tenantId .menuClick) :
    menu? c tenantId key = menu? c' tenantId key := by
  rw [menu?_eq_map_contents, menu?_eq_map_contents, same]

theorem text?_congr (text : String)
    (flag : ∀ category, c.isEnabled tenantId category = c'.isEnabled tenantId category)
    (same : ∀ category, c.isEnabled tenantId category = true →
      c.contents tenantId category = c'.contents tenantId category) :
    text? c tenantId text = text? c' tenantId text := by
  rw [text?, text?, keyword?_congr text (flag _) (same _), single?_congr (flag _) (same _)]

theorem payload?_of_click {m : Inbound.Message} {key ticket : String}
    (click : m.content = .event clickEvent key ticket) (c : Configuration) (tenantId : String) :
    payload? c tenantId m = menu? c tenantId key := by
  have other : clickEvent ≠ subscribeEvent := by decide
  simp only [payload?, click, if_neg other, if_true]

/-- Rules that are read: those of menus, and those of the categories that are switched on. -/
theorem payload?_congr (flags : ∀ category, c.isEnabled tenantId category = c'.isEnabled tenantId category)
    (same : ∀ category, category = .menuClick ∨ c.isEnabled tenantId category = true →
      c.contents tenantId category = c'.contents tenantId category) (m : Inbound.Message) :
    payload? c tenantId m = payload? c' tenantId m := by
  have enabled {category : Category} (on : c.isEnabled tenantId category = true) := same category (.inr on)
  unfold payload?
  split
  · exact text?_congr _ flags fun _ => enabled
  · exact single?_congr (flags _) enabled
  · exact single?_congr (flags _) enabled
  · exact single?_congr (flags _) enabled
  · split
    · exact single?_congr (flags _) enabled
    · split
      · exact menu?_congr _ (same _ (.inl rfl))
      · rfl
  · rfl
  · rfl
  · rfl

/-- The replies to a message are the same in any two databases with the same flags of the tenant and the same contents
of its rules, in their order: all else in a rule, and all that belongs to other tenants, has no influence. Rules of
categories that are switched off have none either, even if they cannot be read, and a click on a button has the same
replies whatever the flags are. -/
theorem replies_noninterference (c c' : Configuration) (tenantId : String) (m : Inbound.Message) (draw : Nat) :
    let flags := ∀ category, c.isEnabled tenantId category = c'.isEnabled tenantId category
    (flags → c.SaySame c' tenantId (fun _ => true) → replies c tenantId m draw = replies c' tenantId m draw) ∧
      (∀ off : Category → Bool,
        (∀ category, off category = true → category ≠ .menuClick ∧ c.isEnabled tenantId category = false) →
          flags → c.SaySame c' tenantId (fun category => !off category) →
            replies c tenantId m draw = replies c' tenantId m draw) ∧
      ∀ key ticket, m.content = .event clickEvent key ticket →
        c.SaySame c' tenantId (fun category => category == .menuClick) →
          replies c tenantId m draw = replies c' tenantId m draw := by
  intro flags
  have apart (off : Category → Bool)
      (silent : ∀ category, off category = true → category ≠ .menuClick ∧ c.isEnabled tenantId category = false)
      (agree : flags) (same : c.SaySame c' tenantId fun category => !off category) :
      replies c tenantId m draw = replies c' tenantId m draw := by
    rw [replies, replies, payload?_congr agree]
    intro category heard
    refine same.contents_eq ?_
    rw [Bool.not_eq_true', Bool.eq_false_iff]
    intro isOff
    obtain ⟨other, disabled⟩ := silent category isOff
    rcases heard with menu | enabled
    · exact other menu
    · rw [disabled] at enabled
      cases enabled
  refine ⟨fun agree same => apart (fun _ => false) (by simp) agree same, apart, fun key ticket click same => ?_⟩
  rw [replies, replies, payload?_of_click click, payload?_of_click click, menu?_congr key (same.contents_eq rfl)]

/-- One database has a rule for keywords that cannot be read, a rule of another tenant and a draft; the other has none
of these. -/
theorem replies_noninterference_of_broken_keywords :
    let reply := "\x7b\"reply_all\":true,\"msg_list\":[\x7b\"msg_type\":\"text\",\"content\":\"hi\"\x7d]\x7d"
    let rows : List Store.RuleRow :=
      [⟨1, "wx1", .keyword, "", "broken", "broken", "", "", "yesterday"⟩,
        ⟨2, "wx2", .message, "", "", "", "", "", "2024-01-01T00:00:00Z"⟩,
        ⟨4, "wx1", .message, "greeting", reply, "", "", "draft", "2024-01-01T00:00:00Z"⟩]
    let rows' : List Store.RuleRow := [⟨7, "wx1", .message, "", reply, "", "42", "", "2025-06-30T12:00:00+08:00"⟩]
    let flags := Table.empty.put ("wx1", Category.message) true
    let c : Configuration := ⟨⟨.current, .empty, flags, ⟨rows, 4, by decide, by decide⟩⟩, none⟩
    let c' : Configuration := ⟨⟨.current, .empty, flags, ⟨rows', 7, by decide, by decide⟩⟩, none⟩
    let m : Inbound.Message := ⟨"gh_tenant", "o_user", 1700000000, .text "hello" 42⟩
    c.SaySame c' "wx1" (fun category => !(category == .keyword)) ∧
      replies c "wx1" m 0 = replies c' "wx1" m 0 ∧ replies c' "wx1" m 0 = .ok [.text "hi"] := by
  intro reply rows rows' flags c c' m
  have same : c.SaySame c' "wx1" (fun category => !(category == .keyword)) :=
    ⟨by decide +kernel, by decide +kernel, by decide +kernel⟩
  have silent (category : Category) (isOff : (category == .keyword) = true) :
      category ≠ .menuClick ∧ c.isEnabled "wx1" category = false := by
    obtain rfl := eq_of_beq isOff
    exact ⟨by decide, by decide +kernel⟩
  exact ⟨same, (replies_noninterference c c' "wx1" m 0).2.1 (· == .keyword) silent (fun _ => rfl) same,
    by decide +kernel⟩

end Resolution

end ReplyGateway
