import Mathlib
import ReplyGateway.Proofs.Store.History

namespace ReplyGateway.Store

/-- An operation of the store, or a text that is written over the one of an instant. -/
inductive Deed
  | operation (operation : Operation)
  | overwriteTenant (id createdAt : String)
  | overwriteRule (id : Int) (createdAt : String)

/-- A deed, and what came back. -/
structure Event where
  deed : Deed
  answer : Answer

namespace Deed

/-- What is put into the store for a tenant. -/
def upserted? (id : String) : Deed → Option Tenant
  | .operation (.upsertTenant tenant) => if tenant.id = id then some tenant else none
  | _ => none

/-- The text that is written over the instant of a tenant. -/
def tenantText? (id : String) : Deed → Option String
  | .overwriteTenant other createdAt => if other = id then some createdAt else none
  | _ => none

/-- The value that a flag is set to. -/
def flag? (tenantId : String) (category : Category) : Deed → Option Bool
  | .operation (.setFeature other kind enabled) => if other = tenantId ∧ kind = category then some enabled else none
  | _ => none

end Deed

namespace Event

/-- The record of an operation, if the deed is one. -/
def record? (e : Event) : Option Record :=
  match e.deed with
  | .operation operation => some ⟨operation, e.answer⟩
  | _ => none

/-- The text that is written for the instant of a rule: when it is added, or over the one it has. -/
def ruleText? (id : Int) (e : Event) : Option String :=
  match e.deed with
  | .overwriteRule other createdAt => if other = id then some createdAt else none
  | _ =>
    (e.record?.bind Record.inserted?).bind fun rule => if rule.id = id then some rule.createdAt.storedText else none

end Event

/-- What is left of a row when a text is written over the instant of the rule with a number. -/
def RuleRow.overwrite (id : Int) (createdAt : String) (row : RuleRow) : RuleRow :=
  { row with createdAt := if (row.id : Int) = id then createdAt else row.createdAt }

section History

/-- The last of what was done that counts. -/
def last? {α β : Type} (f : α → Option β) (past : List α) : Option β := (past.filterMap f).getLast?

theorem last?_concat {α β : Type} (f : α → Option β) (past : List α) (a : α) :
    last? f (past ++ [a]) = (f a).or (last? f past) := by
  cases here : f a <;> simp [last?, here]

/-- The text of when a tenant was created: the one of the first time it was put into the store, or else the last that
was written over it since. -/
def creationText? (id : String) : List Deed → Option String
  | [] => none
  | deed :: later =>
    match deed.upserted? id with
    | some tenant => some ((last? (Deed.tenantText? id) later).getD tenant.createdAt.storedText)
    | none => creationText? id later

/-- What the store holds of a tenant. -/
def tenantRow? (id : String) (past : List Deed) : Option TenantRow :=
  (last? (Deed.upserted? id) past).bind fun tenant => (creationText? id past).map (.ofTenant tenant)

/-- The rules that are there, as they were added. -/
def present (past : List Event) : List Rule := kept (past.filterMap Event.record?)

/-- The text of the instant of a rule. -/
def ruleText (past : List Event) (id : Int) : String := (last? (Event.ruleText? id) past).getD ""

/-- The row of a rule that is there. -/
def ruleRow (past : List Event) (rule : Rule) : RuleRow :=
  { RuleRow.ofRule rule.id.toNat rule with createdAt := ruleText past rule.id }

/-- What the store holds of rules. -/
def ruleRows (past : List Event) : List RuleRow := (present past).map (ruleRow past)

/-- One more deed writes over the text of an instant, or gives the first one, or leaves it. -/
theorem creationText?_concat (id : String) (past : List Deed) (deed : Deed) :
    creationText? id (past ++ [deed]) =
      match creationText? id past with
      | some text => some ((deed.tenantText? id).getD text)
      | none => (deed.upserted? id).map fun tenant => tenant.createdAt.storedText := by
  -- by recursion from the front, where the first time counts; the last text over it is looked for behind that
  induction past with
  | nil => cases here : deed.upserted? id <;> simp [creationText?, here, last?]
  | cons first later ih =>
    rw [List.cons_append, creationText?, creationText?]
    cases first.upserted? id with
    | none => exact ih
    | some tenant =>
      rw [last?_concat]
      cases deed.tenantText? id <;> rfl

/-- A tenant has a text for its instant if it was put into the store, and only then. -/
theorem isSome_creationText? (id : String) (past : List Deed) :
    (creationText? id past).isSome = (last? (Deed.upserted? id) past).isSome := by
  induction past using List.reverseRecOn with
  | nil => rfl
  | append_singleton past deed ih =>
    rw [creationText?_concat, last?_concat, Option.isSome_or, ← ih]
    cases creationText? id past <;> simp

/-- The instant of a tenant that is there is the one that its text tells. -/
theorem map_createdAt_tenantRow? (id : String) (past : List Deed) :
    (tenantRow? id past).map TenantRow.createdAt = creationText? id past := by
  have both := isSome_creationText? id past
  rw [tenantRow?]
  revert both
  cases last? (Deed.upserted? id) past with
  | none => exact fun none => (Option.not_isSome_iff_eq_none.1 (by simp [none])).symm
  | some tenant =>
    intro _
    cases creationText? id past <;> rfl

/-- A tenant that is there already keeps its instant. -/
theorem tenantRow?_upsertTenant (id : String) (past : List Deed) (tenant : Tenant) :
    tenantRow? id (past ++ [.operation (.upsertTenant tenant)]) =
      if tenant.id = id then some (.ofTenant tenant ((creationText? id past).getD tenant.createdAt.storedText))
      else tenantRow? id past := by
  rw [tenantRow?, last?_concat, creationText?_concat, Deed.upserted?]
  by_cases same : tenant.id = id
  · rw [if_pos same, if_pos same]
    cases creationText? id past <;> rfl
  · rw [if_neg same, if_neg same, tenantRow?]
    cases creationText? id past <;> rfl

theorem tenantRow?_overwriteTenant (id : String) (past : List Deed) (other createdAt : String) :
    tenantRow? id (past ++ [.overwriteTenant other createdAt]) =
      if other = id then (tenantRow? id past).map fun row => { row with createdAt } else tenantRow? id past := by
  rw [tenantRow?, last?_concat, creationText?_concat, Deed.tenantText?, tenantRow?]
  change Option.bind (last? (Deed.upserted? id) past) _ = _
  by_cases same : other = id
  · rw [if_pos same, if_pos same]
    cases last? (Deed.upserted? id) past <;> cases creationText? id past <;> rfl
  · rw [if_neg same, if_neg same]
    cases creationText? id past <;> rfl

/-- One more deed takes rules away or adds one at the end. -/
theorem present_concat (past : List Event) (e : Event) :
    present (past ++ [e]) =
      match e.record? with
      | some r => (present past).filter (fun rule => !r.deletes rule.id) ++ r.inserted?.toList
      | none => present past := by
  rw [present, List.filterMap_append]
  cases here : e.record? <;> simp [here, kept_concat, present]

theorem ruleText_concat (past : List Event) (e : Event) (id : Int) :
    ruleText (past ++ [e]) id = (e.ruleText? id).getD (ruleText past id) := by
  rw [ruleText, last?_concat, ruleText]
  cases e.ruleText? id <;> rfl

/-- Numbers of rules are not negative. -/
theorem nonneg_of_inserted? {r : Record} {rule : Rule} (added : r.inserted? = some rule) : 0 ≤ rule.id := by
  unfold Record.inserted? at added
  split at added
  · obtain ⟨_, given, rfl⟩ := Option.map_eq_some_iff.1 added
    obtain ⟨number, _, same⟩ := Option.bind_eq_some_iff.1 given
    obtain rfl := Option.some.inj same
    exact Int.natCast_nonneg number
  · cases added

theorem nonneg_of_mem_present {past : List Event} {rule : Rule} (mem : rule ∈ present past) : 0 ≤ rule.id := by
  induction past using List.reverseRecOn with
  | nil => cases mem
  | append_singleton past e ih =>
    rw [present_concat] at mem
    cases record : e.record? with
    | none =>
      rw [record] at mem
      exact ih mem
    | some r =>
      rw [record] at mem
      rcases List.mem_append.1 mem with old | new
      · exact ih (List.mem_filter.1 old).1
      · exact nonneg_of_inserted? (Option.mem_toList.1 new)

/-- The number of the row of a rule that is there is the one of the rule. -/
theorem id_ruleRow {past : List Event} {rule : Rule} (mem : rule ∈ present past) (later : List Event) :
    ((ruleRow later rule).id : Int) = rule.id := Int.toNat_of_nonneg (nonneg_of_mem_present mem)

/-- A deed that neither adds nor deletes a rule, and writes no text of one. -/
theorem ruleRows_of_other {past : List Event} {e : Event} (adds : e.record?.bind Record.inserted? = none)
    (deletes : ∀ r ∈ e.record?, ∀ id, r.deletes id = false) (writes : ∀ id, e.ruleText? id = none) :
    ruleRows (past ++ [e]) = ruleRows past := by
  have rows (rule : Rule) : ruleRow (past ++ [e]) rule = ruleRow past rule := by
    simp [ruleRow, ruleText_concat, writes]
  have rules : present (past ++ [e]) = present past := by
    rw [present_concat]
    cases record : e.record? with
    | none => rfl
    | some r =>
      rw [record] at adds deletes
      simp [show r.inserted? = none from adds, deletes r rfl]
  rw [ruleRows, rules, funext rows, ruleRows]

/-- A rule that is added stands last, and has its own text. -/
theorem ruleRows_insertRule {past : List Event} {number : Nat} (fresh : ∀ rule ∈ present past, (number : Int) ≠ rule.id)
    (rule : Rule) :
    ruleRows (past ++ [⟨.operation (.insertRule rule), .number number⟩]) =
      ruleRows past ++ [.ofRule number rule] := by
  have rules : present (past ++ [⟨.operation (.insertRule rule), .number number⟩]) =
      present past ++ [{ rule with id := number }] := by
    rw [present_concat]
    exact congrArg (· ++ _) (List.filter_true _)
  have old (other : Rule) (mem : other ∈ present past) :
      ruleRow (past ++ [⟨.operation (.insertRule rule), .number number⟩]) other = ruleRow past other := by
    have text : Event.ruleText? other.id ⟨.operation (.insertRule rule), .number number⟩ = none :=
      if_neg (fresh other mem)
    rw [ruleRow, ruleText_concat, text]
    rfl
  have new : ruleText (past ++ [⟨.operation (.insertRule rule), .number number⟩]) number =
      rule.createdAt.storedText := by
    have text : Event.ruleText? number ⟨.operation (.insertRule rule), .number number⟩ =
        some rule.createdAt.storedText := if_pos rfl
    rw [ruleText_concat, text]
    rfl
  rw [ruleRows, rules, List.map_append, List.map_congr_left old, List.map_singleton, ruleRow, new]
  rfl

theorem present_deleteRule (past : List Event) (id : Int) (answer : Answer) :
    present (past ++ [⟨.operation (.deleteRule id), answer⟩]) =
      (present past).filter fun rule => !decide (id = rule.id) := by
  rw [present_concat]
  exact List.append_nil _

theorem ruleText_deleteRule (past : List Event) (id : Int) (answer : Answer) :
    ruleText (past ++ [⟨.operation (.deleteRule id), answer⟩]) = ruleText past := by
  funext other
  rw [ruleText_concat]
  rfl

theorem ruleRows_deleteRule (past : List Event) (id : Int) (answer : Answer) :
    ruleRows (past ++ [⟨.operation (.deleteRule id), answer⟩]) =
      (ruleRows past).filter fun row => decide ((row.id : Int) ≠ id) := by
  have rows (rule : Rule) : ruleRow (past ++ [⟨.operation (.deleteRule id), answer⟩]) rule = ruleRow past rule := by
    rw [ruleRow, ruleText_deleteRule, ruleRow]
  rw [ruleRows, present_deleteRule, funext rows, ruleRows, List.filter_map]
  refine congrArg _ (List.filter_congr fun rule mem => ?_)
  simp only [Function.comp_apply, id_ruleRow mem, decide_not, eq_comm]

theorem ruleRows_overwriteRule (past : List Event) (id : Int) (createdAt : String) (answer : Answer) :
    ruleRows (past ++ [⟨.overwriteRule id createdAt, answer⟩]) = (ruleRows past).map (.overwrite id createdAt) := by
  have there : present (past ++ [⟨.overwriteRule id createdAt, answer⟩]) = present past := present_concat ..
  rw [ruleRows, there, ruleRows, List.map_map]
  refine List.map_congr_left fun rule mem => ?_
  have text : ruleText (past ++ [⟨.overwriteRule id createdAt, answer⟩]) rule.id =
      if rule.id = id then createdAt else ruleText past rule.id := by
    rw [ruleText_concat]
    change (if id = rule.id then some createdAt else none).getD _ = _
    by_cases same : rule.id = id
    · rw [if_pos same.symm, if_pos same]
      rfl
    · rw [if_neg (Ne.symm same), if_neg same]
      rfl
  rw [Function.comp_apply, RuleRow.overwrite, id_ruleRow mem, ruleRow, ruleRow, text]

end History

namespace Database

def act (place : Place) (db : Database) : Deed → Database × Answer
  | .operation operation => db.perform place operation
  | .overwriteTenant id createdAt =>
    ((db.overwriteTenantCreation id createdAt).1, .number (db.overwriteTenantCreation id createdAt).2)
  | .overwriteRule id createdAt =>
    ((db.overwriteRuleCreation id createdAt).1, .number (db.overwriteRuleCreation id createdAt).2)

/-- The database that is left. -/
def after (place : Place) (db : Database) (deeds : List Deed) : Database :=
  deeds.foldl (fun db deed => (db.act place deed).1) db

/-- All that was done, with what came back. -/
def events (place : Place) (db : Database) : List Deed → List Event
  | [] => []
  | deed :: rest => ⟨deed, (db.act place deed).2⟩ :: (db.act place deed).1.events place rest

theorem map_deed_events (place : Place) (db : Database) (deeds : List Deed) :
    (db.events place deeds).map Event.deed = deeds := by
  induction deeds generalizing db with
  | nil => rfl
  | cons deed rest ih => rw [events, List.map_cons, ih]

/-- What a database holds is what was done to it, the texts of instants that were overwritten behind its back
included. -/
structure Follows (db : Database) (past : List Event) : Prop where
  schema : db.schema = .current
  rules : db.rules.rows = ruleRows past
  tenants : ∀ id, db.tenants.get? id = tenantRow? id (past.map Event.deed)
  flags : ∀ tenantId category, db.flags.get? (tenantId, category) =
    last? (Deed.flag? tenantId category) (past.map Event.deed)

theorem follows_empty : Follows empty [] := ⟨rfl, rfl, fun _ => rfl, fun _ _ => rfl⟩

section

variable {db : Database} {past : List Event} {place : Place} {deed : Deed} {answer : Answer}

theorem Follows.rules_of_other (follows : Follows db past)
    (adds : (Event.record? ⟨deed, answer⟩).bind Record.inserted? = none)
    (deletes : ∀ r ∈ Event.record? ⟨deed, answer⟩, ∀ id, r.deletes id = false)
    (writes : ∀ id, Event.ruleText? id ⟨deed, answer⟩ = none) : db.rules.rows = ruleRows (past ++ [⟨deed, answer⟩]) :=
  follows.rules.trans (ruleRows_of_other adds deletes writes).symm

theorem Follows.tenants_of_other (follows : Follows db past) (upserts : ∀ id, deed.upserted? id = none)
    (writes : ∀ id, deed.tenantText? id = none) (id : String) :
    db.tenants.get? id = tenantRow? id ((past ++ [Event.mk deed answer]).map Event.deed) := by
  rw [follows.tenants, List.map_append, List.map_singleton, tenantRow?, tenantRow?, last?_concat, upserts,
    creationText?_concat, writes, upserts]
  cases creationText? id (past.map Event.deed) <;> rfl

theorem Follows.flags_of_other (follows : Follows db past)
    (sets : ∀ tenantId category, deed.flag? tenantId category = none) (tenantId : String) (category : Category) :
    db.flags.get? (tenantId, category) =
      last? (Deed.flag? tenantId category) ((past ++ [Event.mk deed answer]).map Event.deed) := by
  rw [follows.flags, List.map_append, List.map_singleton, last?_concat, sets]
  rfl

/-- What is read leaves all as it is. -/
theorem Follows.of_read (follows : Follows db past)
    (adds : (Event.record? ⟨deed, answer⟩).bind Record.inserted? = none)
    (deletes : ∀ r ∈ Event.record? ⟨deed, answer⟩, ∀ id, r.deletes id = false)
    (writes : ∀ id, Event.ruleText? id ⟨deed, answer⟩ = none) (upserts : ∀ id, deed.upserted? id = none)
    (texts : ∀ id, deed.tenantText? id = none) (sets : ∀ tenantId category, deed.flag? tenantId category = none) :
    Follows db (past ++ [⟨deed, answer⟩]) :=
  ⟨follows.schema, follows.rules_of_other adds deletes writes, follows.tenants_of_other upserts texts,
    follows.flags_of_other sets⟩

/-- A new rule has a number beyond those of the rules that are there. -/
theorem Follows.ne_of_mem (follows : Follows db past) {rule : Rule} (mem : rule ∈ present past) :
    ((db.rules.lastId + 1 : Nat) : Int) ≠ rule.id := by
  have row : ruleRow past rule ∈ db.rules.rows := by
    rw [follows.rules]
    exact List.mem_map_of_mem mem
  have bound := db.rules.bounded _ row
  have number := id_ruleRow mem past
  omega

theorem Follows.insertRule (follows : Follows db past) (rule : Rule) :
    Follows (db.insertRule rule).1 (past ++ [⟨.operation (.insertRule rule), .number (db.insertRule rule).2⟩]) where
  schema := follows.schema
  rules := (congrArg (· ++ _) follows.rules).trans (ruleRows_insertRule (fun _ => follows.ne_of_mem) rule).symm
  tenants := follows.tenants_of_other (by intros; rfl) (by intros; rfl)
  flags := follows.flags_of_other (by intros; rfl)

theorem Follows.deleteRule (follows : Follows db past) (id : Int) :
    Follows (db.deleteRule id).1 (past ++ [⟨.operation (.deleteRule id), answer⟩]) where
  schema := follows.schema
  rules := (congrArg (List.filter _) follows.rules).trans (ruleRows_deleteRule past id answer).symm
  tenants := follows.tenants_of_other (by intros; rfl) (by intros; rfl)
  flags := follows.flags_of_other (by intros; rfl)

theorem Follows.overwriteRule (follows : Follows db past) (id : Int) (createdAt : String) :
    Follows (db.overwriteRuleCreation id createdAt).1 (past ++ [⟨.overwriteRule id createdAt, answer⟩]) where
  schema := follows.schema
  rules := (congrArg (List.map _) follows.rules).trans (ruleRows_overwriteRule past id createdAt answer).symm
  tenants := follows.tenants_of_other (by intros; rfl) (by intros; rfl)
  flags := follows.flags_of_other (by intros; rfl)

/-- A tenant that is put into the store is held with its first instant. -/
theorem Follows.upsertTenant (follows : Follows db past) (tenant : Tenant) :
    Follows (db.upsertTenant tenant) (past ++ [⟨.operation (.upsertTenant tenant), answer⟩]) where
  schema := follows.schema
  rules := follows.rules_of_other rfl (by rintro _ ⟨⟩ _; rfl) fun _ => rfl
  tenants id := by
    rw [List.map_append, List.map_singleton, tenantRow?_upsertTenant, ← map_createdAt_tenantRow?, ← follows.tenants]
    by_cases same : tenant.id = id
    · rw [if_pos same, Database.upsertTenant, same, Table.get?_put_self]
      cases db.tenants.get? id <;> rfl
    · rw [if_neg same, Database.upsertTenant, Table.get?_put_of_ne same]
  flags := follows.flags_of_other (by intros; rfl)

theorem Follows.overwriteTenant (follows : Follows db past) (id createdAt : String) :
    Follows (db.overwriteTenantCreation id createdAt).1 (past ++ [⟨.overwriteTenant id createdAt, answer⟩]) := by
  have tenants (other : String) : (db.overwriteTenantCreation id createdAt).1.tenants.get? other =
      tenantRow? other ((past ++ [Event.mk (.overwriteTenant id createdAt) answer]).map Event.deed) := by
    rw [List.map_append, List.map_singleton, tenantRow?_overwriteTenant, ← follows.tenants, overwriteTenantCreation]
    by_cases same : id = other
    · subst same
      rw [if_pos rfl]
      cases found : db.tenants.get? id with
      | none => exact found
      | some row => exact Table.get?_put_self ..
    · rw [if_neg same]
      cases db.tenants.get? id with
      | none => rfl
      | some row => exact Table.get?_put_of_ne same
  have others : (db.overwriteTenantCreation id createdAt).1 =
      { db with tenants := (db.overwriteTenantCreation id createdAt).1.tenants } := by
    rw [overwriteTenantCreation]
    cases db.tenants.get? id <;> rfl
  rw [others]
  exact ⟨follows.schema, follows.rules_of_other rfl (by rintro _ ⟨⟩) fun _ => rfl, tenants,
    follows.flags_of_other (by intros; rfl)⟩

theorem Follows.setFeature (follows : Follows db past) (tenantId : String) (category : Category) (enabled : Bool) :
    Follows (db.setFeature tenantId category enabled)
      (past ++ [⟨.operation (.setFeature tenantId category enabled), answer⟩]) where
  schema := follows.schema
  rules := follows.rules_of_other rfl (by rintro _ ⟨⟩ _; rfl) fun _ => rfl
  tenants := follows.tenants_of_other (by intros; rfl) (by intros; rfl)
  flags other kind := by
    rw [List.map_append, List.map_singleton, last?_concat, ← follows.flags, Deed.flag?]
    by_cases same : tenantId = other ∧ category = kind
    · obtain ⟨rfl, rfl⟩ := same
      rw [if_pos ⟨rfl, rfl⟩, Database.setFeature, Table.get?_put_self]
      rfl
    · rw [if_neg same, Database.setFeature, Table.get?_put_of_ne fun pair => same (Prod.mk.inj pair)]
      rfl

/-- Whatever is done, the database holds what its history tells. -/
theorem Follows.act (follows : Follows db past) (stays : deed = .operation .reopen → place = .file) :
    Follows (db.act place deed).1 (past ++ [⟨deed, (db.act place deed).2⟩]) := by
  cases deed with
  | overwriteTenant id createdAt => exact follows.overwriteTenant id createdAt
  | overwriteRule id createdAt => exact follows.overwriteRule id createdAt
  | operation operation =>
    cases operation with
    | insertRule rule => exact follows.insertRule rule
    | deleteRule id => exact follows.deleteRule id
    | upsertTenant tenant => exact follows.upsertTenant tenant
    | setFeature tenantId category enabled => exact follows.setFeature tenantId category enabled
    | migrate =>
      rw [Database.act, perform, (settle_of_current follows.schema rfl).1]
      exact follows.of_read rfl (by rintro _ ⟨⟩ _; rfl) (fun _ => rfl) (fun _ => rfl) (fun _ => rfl) fun _ _ => rfl
    | reopen =>
      rw [Database.act, perform, (settle_of_current follows.schema (stays rfl)).2]
      exact follows.of_read rfl (by rintro _ ⟨⟩ _; rfl) (fun _ => rfl) (fun _ => rfl) (fun _ => rfl) fun _ _ => rfl
    | _ =>
      exact follows.of_read rfl (by rintro _ ⟨⟩ _; rfl) (fun _ => rfl) (fun _ => rfl) (fun _ => rfl) fun _ _ => rfl

/-- By induction on the deeds: a database holds what was done to it, if it is in a file or never reopened. -/
theorem Follows.after (follows : Follows db past) {deeds : List Deed}
    (stays : .operation .reopen ∈ deeds → place = .file) :
    Follows (db.after place deeds) (past ++ db.events place deeds) := by
  induction deeds generalizing db past with
  | nil => simpa [Database.after, events] using follows
  | cons deed rest ih =>
    have first : Follows (db.act place deed).1 (past ++ [⟨deed, (db.act place deed).2⟩]) :=
      follows.act fun same => stays (same ▸ List.mem_cons_self ..)
    have all := ih first fun mem => stays (List.mem_cons_of_mem _ mem)
    rwa [List.append_assoc] at all

end

end Database

end ReplyGateway.Store
