import Mathlib
import ReplyGateway.Proofs.Instant
import ReplyGateway.Proofs.Lists
import ReplyGateway.Store.Database

namespace ReplyGateway.Store

inductive Operation
  | insertRule (rule : Rule)
  | deleteRule (id : Int)
  | listRules (tenantId : String) (category : Category)
  | upsertTenant (tenant : Tenant)
  | tenant (id : String)
  | setFeature (tenantId : String) (category : Category) (enabled : Bool)
  | isEnabled (tenantId : String) (category : Category)
  | migrate
  | reopen

inductive Answer
  | number (id : Nat)
  | removed (there : Bool)
  | rules (found : Except Fault (List Rule))
  | tenant (found : Except Fault Tenant)
  | enabled (on : Bool)
  | done
  | failed (fault : Fault)

/-- An operation, and what came back. -/
structure Record where
  operation : Operation
  answer : Answer

namespace Record

/-- The number that a rule was given. -/
def number? : Record → Option Nat
  | ⟨.insertRule _, .number id⟩ => some id
  | _ => none

/-- The rule that was added, under the number that it was given. -/
def inserted? (r : Record) : Option Rule :=
  match r.operation with
  | .insertRule rule => r.number?.map fun id => { rule with id }
  | _ => none

def deletes (r : Record) (id : Int) : Bool :=
  match r.operation with
  | .deleteRule other => decide (other = id)
  | _ => false

end Record

/-- All numbers that were ever given. -/
def numbers (past : List Record) : List Nat := past.filterMap Record.number?

theorem numbers_concat_of_none {past : List Record} {r : Record} (none : r.number? = none) :
    numbers (past ++ [r]) = numbers past := by
  simp [numbers, none]

/-- The rules that were added and not deleted since, in the order in which they were added. -/
def kept : List Record → List Rule
  | [] => []
  | r :: later => (r.inserted?.filter fun rule => later.all fun d => !d.deletes rule.id).toList ++ kept later

/-- One more operation takes rules away or adds one at the end. -/
theorem kept_concat (past : List Record) (r : Record) :
    kept (past ++ [r]) = (kept past).filter (fun rule => !r.deletes rule.id) ++ r.inserted?.toList := by
  induction past with
  | nil => cases adds : r.inserted? <;> simp [kept, adds]
  | cons first later ih =>
    rw [List.cons_append, kept, ih, kept, List.filter_append, List.append_assoc]
    congr 1
    cases first.inserted? with
    | none => rfl
    | some rule =>
      cases deleted : r.deletes rule.id <;> cases all : later.all fun d => !d.deletes rule.id <;>
        simp [Option.filter, List.all_append, deleted, all]

theorem kept_concat_of_other {past : List Record} {r : Record} (adds : r.inserted? = none)
    (deletes : ∀ id, r.deletes id = false) : kept (past ++ [r]) = kept past := by
  simp [kept_concat, adds, deletes]

/-- What an answer tells of the rules, after what was done before. -/
def Tells (past : List Record) (r : Record) : Prop :=
  match r.operation with
  | .insertRule _ => ∃ id, r.answer = .number id ∧ ∀ earlier ∈ numbers past, earlier < id
  | .deleteRule id =>
    r.answer = .removed ((kept past).any fun rule => decide (rule.id = id)) ∧
      kept (past ++ [r]) = (kept past).eraseP fun rule => decide (rule.id = id)
  | .listRules tenantId category =>
    r.answer = .rules (.ok ((kept past).filter fun rule => rule.tenantId == tenantId && rule.category == category))
  | .migrate | .reopen => r.answer = .done
  | .upsertTenant _ | .tenant _ | .setFeature .. | .isEnabled .. => True

theorem Tells.lt_of_number? {past : List Record} {r : Record} {id : Nat} (tells : Tells past r)
    (number : r.number? = some id) : ∀ earlier ∈ numbers past, earlier < id := by
  obtain ⟨operation, answer⟩ := r
  cases operation with
  | insertRule rule =>
    obtain ⟨given, rfl, less⟩ := tells
    obtain rfl := Option.some.inj number
    exact less
  | _ => cases number

namespace RuleRow

variable {row : RuleRow} {rule : Rule}

theorem fields_of_rule? (read : row.rule? = some rule) :
    rule.id = row.id ∧ rule.tenantId = row.tenantId ∧ rule.category = row.category := by
  obtain ⟨_, _, rfl⟩ := Option.map_eq_some_iff.1 read
  exact ⟨rfl, rfl, rfl⟩

/-- A rule with an instant of a year with four digits is read back from its row. -/
theorem rule?_ofRule (id : Nat) (year : rule.createdAt.HasFourDigitYear) :
    (ofRule id rule).rule? = some { rule with id } := by
  simp [rule?, ofRule, Instant.ofText?_storedText year]

end RuleRow

namespace Database

/-- Takes a database that was brought up to date, or leaves it as it was. -/
def settle (db : Database) : Except Fault Database → Database × Answer
  | .ok next => (next, .done)
  | .error fault => (db, .failed fault)

/-- Does one operation. -/
def perform (place : Place) (db : Database) : Operation → Database × Answer
  | .insertRule rule => ((db.insertRule rule).1, .number (db.insertRule rule).2)
  | .deleteRule id => ((db.deleteRule id).1, .removed (db.deleteRule id).2)
  | .listRules tenantId category => (db, .rules (db.listRules tenantId category))
  | .upsertTenant tenant => (db.upsertTenant tenant, .done)
  | .tenant id => (db, .tenant (db.tenant id))
  | .setFeature tenantId category enabled => (db.setFeature tenantId category enabled, .done)
  | .isEnabled tenantId category => (db, .enabled (db.isEnabled tenantId category))
  | .migrate => db.settle db.migrate
  | .reopen => db.settle (db.reopen place)

def performAll (place : Place) (db : Database) : List Operation → List Record
  | [] => []
  | operation :: rest =>
    ⟨operation, (db.perform place operation).2⟩ :: (db.perform place operation).1.performAll place rest

/-- The rows of a store are the rules that its history keeps, and no number is beyond the last one. -/
structure Agrees (db : Database) (past : List Record) : Prop where
  schema : db.schema = .current
  rows : List.Forall₂ (fun row rule => row.rule? = some rule) db.rules.rows (kept past)
  bounded : ∀ id ∈ numbers past, id ≤ db.rules.lastId

theorem agrees_empty : Agrees empty [] := ⟨rfl, .nil, by simp [numbers]⟩

section

variable {db next : Database} {past : List Record} {place : Place} {operation : Operation} {operations : List Operation}

theorem map_id_of_forall₂ {rows : List RuleRow} {rules : List Rule}
    (each : List.Forall₂ (fun row rule => row.rule? = some rule) rows rules) :
    rules.map Rule.id = rows.map fun row => (row.id : Int) := by
  induction each with
  | nil => rfl
  | cons head _ ih => rw [List.map_cons, List.map_cons, ih, (RuleRow.fields_of_rule? head).1]

/-- The numbers of the rules ascend. -/
theorem Agrees.ascending (agrees : Agrees db past) : (kept past).Pairwise fun a b => a.id < b.id := by
  rw [← List.pairwise_map, map_id_of_forall₂ agrees.rows, List.pairwise_map]
  exact db.rules.ascending.imp Int.ofNat_lt.2

/-- A list shows the rules of the history, in the order in which they were added. -/
theorem Agrees.listRules_eq (agrees : Agrees db past) (tenantId : String) (category : Category) :
    db.listRules tenantId category =
      .ok ((kept past).filter fun rule => rule.tenantId == tenantId && rule.category == category) := by
  have selected := List.rel_filter (p := fun row : RuleRow => row.tenantId == tenantId && row.category == category)
    (q := fun rule : Rule => rule.tenantId == tenantId && rule.category == category)
    (fun row rule read => by simp [RuleRow.fields_of_rule? read]) agrees.rows
  rw [listRules, RuleTable.select, mapM_eq_some_iff_forall₂.2 selected]

theorem Agrees.contains_eq (agrees : Agrees db past) (id : Int) :
    db.rules.contains id = (kept past).any fun rule => decide (rule.id = id) := by
  have same := congrArg (List.any · fun number => decide (number = id)) (map_id_of_forall₂ agrees.rows)
  simpa [RuleTable.contains, List.any_map, Function.comp_def] using same.symm

/-- No two rules have a number in common, so what has a number is one rule at most. -/
theorem filter_eq_eraseP {rules : List Rule} (ascending : rules.Pairwise fun a b => a.id < b.id) (id : Int) :
    (rules.filter fun rule => !decide (id = rule.id)) = rules.eraseP fun rule => decide (rule.id = id) := by
  induction rules with
  | nil => rfl
  | cons rule rest ih =>
    have order := List.pairwise_cons.1 ascending
    by_cases same : rule.id = id
    · have others : ∀ other ∈ rest, (!decide (id = other.id)) = true := by
        intro other member
        have less := order.1 other member
        simp only [Bool.not_eq_true', decide_eq_false_iff_not]
        omega
      rw [List.filter_cons_of_neg (by simp [same]), List.eraseP_cons_of_pos (by simp [same]),
        List.filter_eq_self.2 others]
    · rw [List.filter_cons_of_pos (by simpa using Ne.symm same), List.eraseP_cons_of_neg (by simpa using same),
        ih order.2]

/-- An operation that leaves rules and schema. -/
theorem Agrees.of_other {r : Record} (agrees : Agrees db past) (schema : next.schema = db.schema)
    (rules : next.rules = db.rules) (adds : r.inserted? = none) (number : r.number? = none)
    (deletes : ∀ id, r.deletes id = false) : Agrees next (past ++ [r]) where
  schema := schema.trans agrees.schema
  rows := by
    rw [rules, kept_concat_of_other adds deletes]
    exact agrees.rows
  bounded := by
    rw [rules, numbers_concat_of_none number]
    exact agrees.bounded

/-- A rule that is added keeps store and history together. -/
theorem Agrees.insertRule (agrees : Agrees db past) {rule : Rule} (year : rule.createdAt.HasFourDigitYear) :
    Agrees (db.insertRule rule).1 (past ++ [⟨.insertRule rule, .number (db.insertRule rule).2⟩]) where
  schema := agrees.schema
  rows := by
    rw [kept_concat, show (fun kept : Rule => !Record.deletes ⟨.insertRule rule, _⟩ kept.id) = fun _ => true from rfl,
      List.filter_true]
    exact List.rel_append agrees.rows (.cons (RuleRow.rule?_ofRule _ year) .nil)
  bounded id member := by
    rw [numbers, List.filterMap_append] at member
    rcases List.mem_append.1 member with old | new
    · exact Nat.le_succ_of_le (agrees.bounded id old)
    · obtain rfl : id = db.rules.lastId + 1 := List.mem_singleton.1 new
      exact Nat.le_refl _

/-- So does a rule that is taken away, and one that is not there. -/
theorem Agrees.deleteRule (agrees : Agrees db past) (id : Int) (there : Bool) :
    Agrees (db.deleteRule id).1 (past ++ [⟨.deleteRule id, .removed there⟩]) where
  schema := agrees.schema
  rows := by
    rw [kept_concat, show Record.inserted? ⟨.deleteRule id, _⟩ = none from rfl, Option.toList_none, List.append_nil]
    refine List.rel_filter (fun row rule read => ?_) agrees.rows
    change decide ((row.id : Int) ≠ id) = true ↔ (!decide (id = rule.id)) = true
    rw [(RuleRow.fields_of_rule? read).1, decide_not]
    simp only [eq_comm]
  bounded := by
    rw [numbers_concat_of_none rfl]
    exact agrees.bounded

/-- A database that is up to date stays as it is. -/
theorem settle_of_current (schema : db.schema = .current) (stays : place = .file) :
    db.settle db.migrate = (db, .done) ∧ db.settle (db.reopen place) = (db, .done) := by
  have migrates : db.migrate = .ok db := by
    rw [migrate, schema, Schema.migrate_migrate Schema.migrate_bare_zero, ← schema]
    rfl
  rw [stays, reopen, migrates]
  exact ⟨rfl, rfl⟩

/-- One operation answers as the history tells, and its record is what the history has to tell from then on. -/
theorem Agrees.perform (agrees : Agrees db past)
    (years : ∀ rule, operation = .insertRule rule → rule.createdAt.HasFourDigitYear)
    (stays : operation = .reopen → place = .file) :
    Tells past ⟨operation, (db.perform place operation).2⟩ ∧
      Agrees (db.perform place operation).1 (past ++ [⟨operation, (db.perform place operation).2⟩]) := by
  cases operation with
  | insertRule rule =>
    refine ⟨⟨_, rfl, fun earlier member => ?_⟩, agrees.insertRule (years rule rfl)⟩
    exact Nat.lt_succ_of_le (agrees.bounded earlier member)
  | deleteRule id =>
    refine ⟨⟨congrArg _ (agrees.contains_eq id), ?_⟩, agrees.deleteRule id _⟩
    rw [kept_concat, ← filter_eq_eraseP agrees.ascending]
    exact List.append_nil _
  | listRules tenantId category =>
    exact ⟨congrArg _ (agrees.listRules_eq ..), agrees.of_other rfl rfl rfl rfl fun _ => rfl⟩
  | migrate =>
    rw [Database.perform, (settle_of_current agrees.schema rfl).1]
    exact ⟨rfl, agrees.of_other rfl rfl rfl rfl fun _ => rfl⟩
  | reopen =>
    rw [Database.perform, (settle_of_current agrees.schema (stays rfl)).2]
    exact ⟨rfl, agrees.of_other rfl rfl rfl rfl fun _ => rfl⟩
  | _ => exact ⟨trivial, agrees.of_other rfl rfl rfl rfl fun _ => rfl⟩

/-- By induction on the operations: each tells what the history before it does. -/
theorem performAll_of_agrees (agrees : Agrees db past)
    (years : ∀ rule, .insertRule rule ∈ operations → rule.createdAt.HasFourDigitYear)
    (stays : .reopen ∈ operations → place = .file) {before later : List Record} {r : Record}
    (split : db.performAll place operations = before ++ r :: later) : Tells (past ++ before) r := by
  induction operations generalizing db past before with
  | nil => simp [performAll] at split
  | cons operation rest ih =>
    have year (rule : Rule) (same : operation = .insertRule rule) : rule.createdAt.HasFourDigitYear :=
      years rule (same ▸ List.mem_cons_self ..)
    have stay (same : operation = .reopen) : place = .file := stays (same ▸ List.mem_cons_self ..)
    obtain ⟨tells, next⟩ := agrees.perform year stay
    cases before with
    | nil =>
      obtain ⟨rfl, _⟩ := List.cons_eq_cons.1 split
      simpa using tells
    | cons first before =>
      obtain ⟨rfl, others⟩ := List.cons_eq_cons.1 split
      have told := ih next (fun rule member => years rule (List.mem_cons_of_mem _ member))
        (fun member => stays (List.mem_cons_of_mem _ member)) others
      simpa using told

/-- Where every new number is beyond all before it, numbers are never given twice. -/
theorem numbers_ascending {records : List Record}
    (told : ∀ before r later, records = before ++ r :: later → Tells before r) :
    (numbers records).Pairwise (· < ·) := by
  induction records using List.reverseRecOn with
  | nil => exact .nil
  | append_singleton records r ih =>
    have earlier := ih fun before r' later split => told before r' (later ++ [r]) (by rw [split]; simp)
    cases number : r.number? with
    | none =>
      rw [numbers_concat_of_none number]
      exact earlier
    | some id =>
      rw [show numbers (records ++ [r]) = numbers records ++ [id] by simp [numbers, number], List.pairwise_append]
      refine ⟨earlier, List.pairwise_singleton .., fun old member _ new => ?_⟩
      obtain rfl := List.mem_singleton.1 new
      exact (told records r [] rfl).lt_of_number? number old member

end

/-- After any operations on a store that was empty, with rules of years with four digits: rules are found as they were
added, under the numbers that they were given, in the order in which they were added and until they are deleted; a
deletion tells whether there was such a rule, and takes no other; and no number is given twice. This is so over any
number of migrations, and for a database in a file if it is closed and opened again. -/
theorem performAll_tells (place : Place) (operations : List Operation)
    (years : ∀ rule, .insertRule rule ∈ operations → rule.createdAt.HasFourDigitYear)
    (stays : .reopen ∈ operations → place = .file) :
    let records := empty.performAll place operations
    (∀ before r later, records = before ++ r :: later → Tells before r) ∧ (numbers records).Pairwise (· < ·) := by
  intro records
  have told (before : List Record) (r : Record) (later : List Record) (split : records = before ++ r :: later) :
      Tells before r := performAll_of_agrees agrees_empty years stays split
  exact ⟨told, numbers_ascending told⟩

/-- A rule that was added in the middle of a leap second. -/
def leapRule (title : String) : Rule where
  id := 0
  tenantId := "wx1"
  category := .keyword
  title := title
  replyData := "[]"
  keywordData := ""
  externalId := ""
  draftData := ""
  createdAt := ⟨⟨2016, 12, 31, by decide, by decide⟩, 86399, 1500000000, by decide, by decide⟩

/-- The last rule is deleted, before the database is closed and opened again and a rule is added. -/
def reopened : List Operation :=
  [.insertRule (leapRule "first"), .insertRule (leapRule "second"), .deleteRule 2, .reopen, .deleteRule 2,
    .insertRule (leapRule "third"), .migrate, .listRules "wx1" .keyword]

/-- The number of the deleted rule is not given again, and the leap second is kept. -/
theorem performAll_tells_reopened :
    (∀ rule, .insertRule rule ∈ reopened → rule.createdAt.HasFourDigitYear) ∧
      numbers (empty.performAll .file reopened) = [1, 2, 3] ∧
      (numbers (empty.performAll .file reopened)).Pairwise (· < ·) ∧
      ((empty.performAll .file reopened).take 7).map Record.answer =
        [.number 1, .number 2, .removed true, .done, .removed false, .number 3, .done] ∧
      ((empty.performAll .file reopened).map Record.answer).getLast? =
        some (.rules (.ok [{ leapRule "first" with id := 1 }, { leapRule "third" with id := 3 }])) := by
  have years (rule : Rule) (member : .insertRule rule ∈ reopened) : rule.createdAt.HasFourDigitYear := by
    simp only [reopened, List.mem_cons, Operation.insertRule.injEq, reduceCtorEq, false_or, List.not_mem_nil, or_false]
      at member
    rcases member with rfl | rfl | rfl <;> exact ⟨by decide, by decide⟩
  obtain ⟨told, ascending⟩ := performAll_tells .file reopened years fun _ => rfl
  have there : kept ((empty.performAll .file reopened).take 7) =
      [{ leapRule "first" with id := 1 }, { leapRule "third" with id := 3 }] := rfl
  have listed := told ((empty.performAll .file reopened).take 7) _ [] rfl
  refine ⟨years, rfl, ascending, rfl, congrArg some (listed.trans ?_)⟩
  rw [there]
  simp [leapRule]

end Database
end ReplyGateway.Store
