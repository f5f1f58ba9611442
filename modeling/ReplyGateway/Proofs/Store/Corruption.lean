import Mathlib
import ReplyGateway.Proofs.Lists
import ReplyGateway.Proofs.Store.Tenants

namespace ReplyGateway.Store

/-- The rules of a tenant and category that are there. -/
def presentOf (past : List Event) (tenantId : String) (category : Category) : List Rule :=
  (present past).filter fun rule => rule.tenantId == tenantId && rule.category == category

/-- A rule with the instant that its text tells now. -/
def shown? (past : List Event) (rule : Rule) : Option Rule :=
  (Instant.ofText? (ruleText past rule.id)).map fun createdAt => { rule with createdAt }

/-- An answer has all of some rules, with the instants that their texts tell now. -/
def Shows (past : List Event) (rules : List Rule) (answer : Except Fault (List Rule)) : Prop :=
  ∃ found, answer = .ok found ∧ List.Forall₂ (fun rule shown => shown? past rule = some shown) rules found

/-- A list of rules fails if the instant of one of them cannot be read, and else shows all of them. -/
structure Lists (past : List Event) (rules : List Rule) (answer : Except Fault (List Rule)) : Prop where
  fails : answer = .error .database ↔ ∃ rule ∈ rules, Instant.ofText? (ruleText past rule.id) = none
  shows : (∀ rule ∈ rules, Instant.ofText? (ruleText past rule.id) ≠ none) → Shows past rules answer

/-- A look for a tenant finds nothing if it was never put into the store, fails if its instant cannot be read, and else
finds what was put there last, with the instant that its text tells now. -/
structure LooksUp (past : List Deed) (id : String) (answer : Except Fault Tenant) : Prop where
  missing : answer = .error .notFound ↔ ∀ tenant, .operation (.upsertTenant tenant) ∈ past → tenant.id ≠ id
  fails : answer = .error .database ↔ ∃ text ∈ creationText? id past, Instant.ofText? text = none
  finds : ∀ tenant ∈ last? (Deed.upserted? id) past, ∀ text ∈ creationText? id past,
    ∀ createdAt ∈ Instant.ofText? text, answer = .ok { tenant with createdAt }

/-- Whether a deed may matter to rules with some numbers: it is an operation, or writes over the instant of one. -/
def Deed.concernsRules (ids : List Int) : Deed → Bool
  | .operation _ => true
  | .overwriteTenant .. => false
  | .overwriteRule id _ => decide (id ∈ ids)

/-- Deletes rules one after another. -/
def deletions (ids : List Int) : List Deed := ids.map fun id => .operation (.deleteRule id)

/-- The row of a rule that is there is read with the instant that its text tells now. -/
theorem rule?_ruleRow {past : List Event} {rule : Rule} (mem : rule ∈ present past) :
    (ruleRow past rule).rule? = shown? past rule := by
  rw [RuleRow.rule?]
  simp only [id_ruleRow mem]
  rfl

theorem shown?_eq_none_iff {past : List Event} {rule : Rule} :
    shown? past rule = none ↔ Instant.ofText? (ruleText past rule.id) = none := Option.map_eq_none_iff

namespace Database

section Lists

variable {db : Database} {past : List Event} {place : Place}

theorem Follows.select_eq (follows : Follows db past) (tenantId : String) (category : Category) :
    db.rules.select tenantId category = (presentOf past tenantId category).map (ruleRow past) := by
  rw [RuleTable.select, follows.rules, ruleRows, List.filter_map]
  rfl

/-- A list is read from what is there, and fails as a whole. -/
theorem Follows.listRules_eq (follows : Follows db past) (tenantId : String) (category : Category) :
    db.listRules tenantId category =
      ((presentOf past tenantId category).mapM (shown? past)).elim (.error .database) .ok := by
  have read : (db.rules.select tenantId category).mapM RuleRow.rule? =
      (presentOf past tenantId category).mapM (shown? past) := by
    rw [follows.select_eq, List.mapM_map]
    exact mapM_congr_left fun rule mem => rule?_ruleRow (List.mem_of_mem_filter mem)
  rw [listRules, read]
  cases (presentOf past tenantId category).mapM (shown? past) <;> rfl

/-- After anything that was done, a list is what the history tells. -/
theorem Follows.lists (follows : Follows db past) (tenantId : String) (category : Category) :
    Lists past (presentOf past tenantId category) (db.listRules tenantId category) := by
  rw [follows.listRules_eq]
  have unreadable : (presentOf past tenantId category).mapM (shown? past) = none ↔
      ∃ rule ∈ presentOf past tenantId category, Instant.ofText? (ruleText past rule.id) = none := by
    simp only [mapM_eq_none_iff, shown?_eq_none_iff]
  cases found : (presentOf past tenantId category).mapM (shown? past) with
  | none =>
    obtain ⟨rule, mem, bad⟩ := unreadable.1 found
    exact ⟨iff_of_true rfl ⟨rule, mem, bad⟩, fun readable => absurd bad (readable rule mem)⟩
  | some rules =>
    refine ⟨iff_of_false nofun fun bad => ?_, fun _ => ⟨rules, rfl, mapM_eq_some_iff_forall₂.1 found⟩⟩
    rw [unreadable.2 bad] at found
    cases found

/-- After anything that was done, the look for a tenant finds what the history tells. -/
theorem Follows.looksUp (follows : Follows db past) (id : String) :
    LooksUp (past.map Event.deed) id (db.tenant id) where
  missing := follows.tenant_eq_notFound_iff.trans last?_upserted?_eq_none_iff
  fails := by
    cases last : last? (Deed.upserted? id) (past.map Event.deed) with
    | none =>
      rw [follows.tenant_eq_notFound_iff.2 last, creationText?_eq_none_iff.2 last]
      exact iff_of_false nofun nofun
    | some tenant =>
      have upserted : creationText? id (past.map Event.deed) ≠ none := by simp [creationText?_eq_none_iff, last]
      obtain ⟨text, creation⟩ := Option.ne_none_iff_exists'.1 upserted
      rw [follows.tenant_eq last creation, creation]
      cases read : Instant.ofText? text <;> simp [read]
  finds tenant last text creation createdAt read := by
    rw [follows.tenant_eq last creation, Option.mem_def.1 read]
    rfl

end Lists

section Elsewhere

/-- Two rows differ in the text of the instant at most, and in nothing if they have one of some numbers. -/
def AlikeFor (ids : List Int) (row other : RuleRow) : Prop :=
  { other with createdAt := row.createdAt } = row ∧ ((row.id : Int) ∈ ids → other = row)

/-- Two databases have the same rules, but for texts of instants of rules that have none of some numbers. -/
structure Alike (ids : List Int) (db other : Database) : Prop where
  lastId : other.rules.lastId = db.rules.lastId
  rows : List.Forall₂ (AlikeFor ids) db.rules.rows other.rules.rows

variable {ids : List Int} {db other : Database} {place : Place}

theorem alikeFor_self (row : RuleRow) : AlikeFor ids row row := ⟨rfl, fun _ => rfl⟩

theorem AlikeFor.fields_eq {row next : RuleRow} (alike : AlikeFor ids row next) :
    next.id = row.id ∧ next.tenantId = row.tenantId ∧ next.category = row.category := by
  rw [← alike.1]
  exact ⟨rfl, rfl, rfl⟩

theorem AlikeFor.overwrite {row next : RuleRow} (alike : AlikeFor ids row next) (id : Int) (createdAt : String) :
    AlikeFor ids (row.overwrite id createdAt) (next.overwrite id createdAt) :=
  ⟨congrArg (fun old => { old with createdAt := (row.overwrite id createdAt).createdAt }) alike.1,
    fun mem => by rw [alike.2 mem]⟩

/-- A text that is written for a rule that has none of the numbers. -/
theorem AlikeFor.overwrite_left {row next : RuleRow} (alike : AlikeFor ids row next) {id : Int} (notMem : id ∉ ids)
    (createdAt : String) : AlikeFor ids (row.overwrite id createdAt) next := by
  refine ⟨congrArg (fun old => { old with createdAt := (row.overwrite id createdAt).createdAt }) alike.1,
    fun mem => ?_⟩
  have other : (row.id : Int) ≠ id := fun same => notMem (same ▸ mem)
  rw [RuleRow.overwrite, if_neg other]
  exact alike.2 mem

theorem alike_self (db : Database) : Alike ids db db := ⟨rfl, List.forall₂_same.2 fun row _ => alikeFor_self row⟩

theorem Alike.of_rules {next after : Database} (alike : Alike ids db other) (rules : next.rules = db.rules)
    (others : after.rules = other.rules) : Alike ids next after where
  lastId := by rw [rules, others, alike.lastId]
  rows := by rw [rules, others]; exact alike.rows

theorem rules_settle_migrate (db : Database) : (db.settle db.migrate).1.rules = db.rules := by
  rw [migrate]
  cases db.schema.migrate <;> rfl

theorem rules_overwriteTenantCreation (db : Database) (id createdAt : String) :
    (db.overwriteTenantCreation id createdAt).1.rules = db.rules := by
  rw [overwriteTenantCreation]
  cases db.tenants.get? id <;> rfl

/-- The same is done to both. -/
theorem Alike.act (alike : Alike ids db other) (deed : Deed) :
    Alike ids (db.act place deed).1 (other.act place deed).1 := by
  cases deed with
  | overwriteTenant id createdAt =>
    exact alike.of_rules (rules_overwriteTenantCreation ..) (rules_overwriteTenantCreation ..)
  | overwriteRule id createdAt =>
    refine ⟨alike.lastId, List.forall₂_map_left_iff.2 (List.forall₂_map_right_iff.2 ?_)⟩
    exact alike.rows.imp fun _ _ each => each.overwrite id createdAt
  | operation operation =>
    cases operation with
    | insertRule rule =>
      refine ⟨congrArg (· + 1) alike.lastId, List.rel_append alike.rows ?_⟩
      rw [alike.lastId]
      exact .cons (alikeFor_self _) .nil
    | deleteRule id =>
      exact ⟨alike.lastId, List.rel_filter (fun row next each => by simp [each.fields_eq]) alike.rows⟩
    | migrate => exact alike.of_rules (rules_settle_migrate db) (rules_settle_migrate other)
    | reopen =>
      cases place with
      | memory => exact alike_self empty
      | file => exact alike.of_rules (rules_settle_migrate db) (rules_settle_migrate other)
    | _ => exact alike.of_rules rfl rfl

/-- What does not matter to the rules is done to the first only. -/
theorem Alike.act_left (alike : Alike ids db other) {deed : Deed} (elsewhere : deed.concernsRules ids = false) :
    Alike ids (db.act place deed).1 other := by
  cases deed with
  | operation operation => cases elsewhere
  | overwriteTenant id createdAt => exact alike.of_rules (rules_overwriteTenantCreation ..) rfl
  | overwriteRule id createdAt =>
    refine ⟨alike.lastId, List.forall₂_map_left_iff.2 ?_⟩
    exact alike.rows.imp fun _ _ each => each.overwrite_left (of_decide_eq_false elsewhere) createdAt

/-- By induction on the deeds: those that do not matter to the rules may be left out. -/
theorem Alike.after (alike : Alike ids db other) (deeds : List Deed) :
    Alike ids (db.after place deeds) (other.after place (deeds.filter (Deed.concernsRules ids))) := by
  induction deeds generalizing db other with
  | nil => exact alike
  | cons deed rest ih =>
    cases concerns : deed.concernsRules ids with
    | false =>
      rw [List.filter_cons_of_neg (by simp [concerns])]
      exact ih (alike.act_left concerns)
    | true =>
      rw [List.filter_cons_of_pos concerns]
      exact ih (alike.act deed)

theorem eq_of_alikeFor {rows others : List RuleRow} (alike : List.Forall₂ (AlikeFor ids) rows others)
    (all : ∀ row ∈ rows, (row.id : Int) ∈ ids) : others = rows := by
  induction alike with
  | nil => rfl
  | cons head _ ih =>
    rw [head.2 (all _ (List.mem_cons_self ..)), ih fun row mem => all row (List.mem_cons_of_mem _ mem)]

/-- A list whose rules all have one of the numbers is the same in both. -/
theorem Alike.listRules_eq (alike : Alike ids db other) {tenantId : String} {category : Category}
    (all : ∀ row ∈ db.rules.select tenantId category, (row.id : Int) ∈ ids) :
    other.listRules tenantId category = db.listRules tenantId category := by
  have selected : List.Forall₂ (AlikeFor ids) (db.rules.select tenantId category)
      (other.rules.select tenantId category) :=
    List.rel_filter (fun _ _ each => by simp [each.fields_eq]) alike.rows
  rw [listRules, eq_of_alikeFor selected all, listRules]

/-- Texts of other rules and of tenants do not matter to a list. -/
theorem listRules_after_filter {deeds : List Deed} (stays : .operation .reopen ∈ deeds → place = .file)
    (tenantId : String) (category : Category) :
    (empty.after place (deeds.filter (Deed.concernsRules
        ((presentOf (empty.events place deeds) tenantId category).map Rule.id)))).listRules tenantId category =
      (empty.after place deeds).listRules tenantId category := by
  -- numbers are given by insertions, and both runs have all of them, so the two are compared deed by deed
  refine ((alike_self empty).after deeds).listRules_eq fun row selected => ?_
  rw [(follows_after stays).select_eq] at selected
  obtain ⟨rule, mem, rfl⟩ := List.mem_map.1 selected
  rw [id_ruleRow (List.mem_of_mem_filter mem)]
  exact List.mem_map_of_mem mem

end Elsewhere

section Recovery

variable {db : Database} {past : List Event} {place : Place}

/-- Deletions take the rules with their numbers, and leave the texts of the others. -/
theorem present_deletions (place : Place) (db : Database) (past : List Event) (ids : List Int) :
    present (past ++ db.events place (deletions ids)) = (present past).filter (fun rule => decide (rule.id ∉ ids)) ∧
      ruleText (past ++ db.events place (deletions ids)) = ruleText past := by
  induction ids generalizing db past with
  | nil => simp [deletions, events]
  | cons id rest ih =>
    obtain ⟨left, texts⟩ := ih (db.act place (.operation (.deleteRule id))).1
      (past ++ [⟨.operation (.deleteRule id), (db.act place (.operation (.deleteRule id))).2⟩])
    rw [show deletions (id :: rest) = .operation (.deleteRule id) :: deletions rest from rfl, events, List.append_cons,
      left, texts, present_deleteRule, List.filter_filter]
    refine ⟨List.filter_congr fun rule _ => ?_, ruleText_deleteRule ..⟩
    simp [not_or, eq_comm, Bool.and_comm]

/-- When the rules that cannot be read are deleted, the list shows the others. -/
theorem Follows.listRules_deletions (follows : Follows db past) {tenantId : String} {category : Category}
    {ids : List Int} (bad : ∀ rule ∈ presentOf past tenantId category,
      Instant.ofText? (ruleText past rule.id) = none → rule.id ∈ ids) :
    Shows past ((presentOf past tenantId category).filter fun rule => decide (rule.id ∉ ids))
      ((db.after place (deletions ids)).listRules tenantId category) := by
  have later : Follows (db.after place (deletions ids)) (past ++ db.events place (deletions ids)) :=
    follows.after fun mem => by simp [deletions] at mem
  obtain ⟨left, texts⟩ := present_deletions place db past ids
  have rules : presentOf (past ++ db.events place (deletions ids)) tenantId category =
      (presentOf past tenantId category).filter fun rule => decide (rule.id ∉ ids) := by
    rw [presentOf, left, presentOf, List.filter_filter, List.filter_filter]
    exact List.filter_congr fun _ _ => Bool.and_comm ..
  have shows := (later.lists tenantId category).shows
  simp only [rules, Shows, shown?, texts] at shows ⊢
  refine shows fun rule mem unreadable => ?_
  obtain ⟨there, keeps⟩ := List.mem_filter.1 mem
  exact of_decide_eq_true keeps (bad rule there unreadable)

/-- The instant of a tenant that cannot be read stays so. -/
theorem Follows.tenant_after_of_unreadable (follows : Follows db past) {id : String} {later : List Deed}
    (stays : .operation .reopen ∈ later → place = .file)
    (untouched : ∀ createdAt, .overwriteTenant id createdAt ∉ later) (unreadable : db.tenant id = .error .database) :
    (db.after place later).tenant id = .error .database := by
  obtain ⟨text, creation, bad⟩ := (follows.looksUp id).fails.1 unreadable
  refine ((follows.after stays).looksUp id).fails.2 ⟨text, ?_, bad⟩
  rw [List.map_append, map_deed_events]
  exact creationText?_append creation untouched

end Recovery

/-- Whatever is done to a store that was empty, and whatever texts are written over instants of its rules and tenants:
a list of rules fails if a rule of that tenant and category has an instant that cannot be read, and else shows all of
them, with the instants that were written last; the look for a tenant fails if that tenant has such an instant, and
finds nothing if it was never put there. Texts of other rules and tenants do not matter to either, and none to flags. A
list can be read when the rules at fault are deleted; a tenant cannot, whatever is put into the store, and however often
the schema is migrated or a database in a file closed and opened again. -/
theorem after_contains (place : Place) (deeds : List Deed) (stays : .operation .reopen ∈ deeds → place = .file) :
    let db := empty.after place deeds
    let past := empty.events place deeds
    (∀ tenantId category, Lists past (presentOf past tenantId category) (db.listRules tenantId category)) ∧
      (∀ id, LooksUp deeds id (db.tenant id)) ∧
      (∀ tenantId category,
        (empty.after place (deeds.filter (Deed.concernsRules
          ((presentOf past tenantId category).map Rule.id)))).listRules tenantId category =
            db.listRules tenantId category) ∧
      (∀ id, (empty.after place (deeds.filter (Deed.concernsTenant id))).tenant id = db.tenant id) ∧
      (∀ tenantId category,
        (empty.after place (deeds.filter (Deed.concernsFlag tenantId category))).isEnabled tenantId category =
          db.isEnabled tenantId category) ∧
      (∀ tenantId category ids,
        (∀ rule ∈ presentOf past tenantId category,
          Instant.ofText? (ruleText past rule.id) = none → rule.id ∈ ids) →
        Shows past ((presentOf past tenantId category).filter fun rule => decide (rule.id ∉ ids))
          ((db.after place (deletions ids)).listRules tenantId category)) ∧
      ∀ id later, (.operation .reopen ∈ later → place = .file) → (∀ createdAt, .overwriteTenant id createdAt ∉ later) →
        db.tenant id = .error .database → (db.after place later).tenant id = .error .database := by
  intro db past
  have follows : Follows db past := follows_after stays
  refine ⟨follows.lists, fun id => ?_, listRules_after_filter stays, tenant_after_filter stays,
    isEnabled_after_filter stays, fun tenantId category ids => follows.listRules_deletions, fun id later stays =>
      follows.tenant_after_of_unreadable stays⟩
  have found := follows.looksUp id
  rwa [map_deed_events] at found

/-- The instants of two rules and of a tenant are overwritten, one of them by another instant. -/
def tampered : List Deed :=
  [.operation (.insertRule (leapRule "first")), .operation (.insertRule (leapRule "second")),
    .operation (.upsertTenant (leapTenant "old")), .overwriteRule 1 "yesterday",
    .overwriteRule 2 "2020-02-29T23:00:00Z", .overwriteTenant "wx1" "yesterday"]

/-- One of the rules that cannot be read is deleted, and its list is there again. -/
theorem after_contains_tampered :
    (.operation .reopen ∈ tampered → Place.file = .file) ∧
      (empty.after .file tampered).listRules "wx1" .keyword = .error .database ∧
      (empty.after .file tampered).listRules "wx1" .subscribe = .ok [] ∧
      ((empty.after .file tampered).after .file (deletions [1])).listRules "wx1" .keyword =
        .ok [{ leapRule "second" with
          id := 2, createdAt := ⟨⟨2020, 2, 29, by decide, by decide⟩, 82800, 0, by decide, by decide⟩ }] ∧
      ((empty.after .file tampered).after .file
        [.operation (.upsertTenant (leapTenant "new")), .operation .migrate, .operation .reopen]).tenant "wx1" =
          .error .database := by
  obtain ⟨lists, looksUp, _, _, _, recovers, stays⟩ := after_contains .file tampered fun _ => rfl
  have there : presentOf (empty.events .file tampered) "wx1" .keyword =
      [{ leapRule "first" with id := 1 }, { leapRule "second" with id := 2 }] := rfl
  have bad : Instant.ofText? (ruleText (empty.events .file tampered) 1) = none := by decide
  refine ⟨fun _ => rfl, (lists "wx1" .keyword).fails.2 ?_, ?_, ?_, stays "wx1" _ (fun _ => rfl) (by simp) ?_⟩
  · rw [there]
    exact ⟨_, List.mem_cons_self .., bad⟩
  · obtain ⟨rules, listed, shown⟩ := (lists "wx1" .subscribe).shows nofun
    obtain rfl := List.forall₂_nil_left_iff.1 shown
    exact listed
  · have left : ∀ rule ∈ presentOf (empty.events .file tampered) "wx1" .keyword,
        Instant.ofText? (ruleText (empty.events .file tampered) rule.id) = none → rule.id ∈ [1] := by
      rw [there]
      decide
    obtain ⟨rules, listed, shown⟩ := recovers "wx1" .keyword [1] left
    rw [there] at shown
    obtain ⟨rule, rest, head, tail, rfl⟩ := List.forall₂_cons_left_iff.1 shown
    obtain rfl := List.forall₂_nil_left_iff.1 tail
    obtain rfl := Option.some.inj head
    exact listed
  · exact (looksUp "wx1").fails.2 ⟨"yesterday", rfl, by decide⟩

end Database
end ReplyGateway.Store
