import ReplyGateway.Store.Fault
import ReplyGateway.Store.Rules
import ReplyGateway.Store.Schema
import ReplyGateway.Table
import ReplyGateway.Tenant

namespace ReplyGateway.Store

/-- A tenant as it is kept, with the text of its instant. -/
structure TenantRow where
  name : String
  apiKey : String
  apiSecret : String
  token : String
  encodingKey : String
  createdAt : String
  deriving DecidableEq, Repr

namespace TenantRow

def ofTenant (t : Tenant) (createdAt : String) : TenantRow :=
  ⟨t.name, t.apiKey, t.apiSecret, t.token, t.encodingKey, createdAt⟩

/-- The tenant of a row, if its instant can be read. -/
def tenant? (row : TenantRow) (id : String) : Option Tenant :=
  (Instant.ofText? row.createdAt).map fun createdAt =>
    ⟨id, row.name, row.apiKey, row.apiSecret, row.token, row.encodingKey, createdAt⟩

end TenantRow

/-- The store of tenants, feature flags and rules. Instants are kept as texts, so that a row whose text was
overwritten may not be readable any more. -/
structure Database where
  schema : Schema
  tenants : Table String TenantRow
  flags : Table (String × Category) Bool
  rules : RuleTable

namespace Database

def empty : Database := ⟨.current, .empty, .empty, .empty⟩

/-- Adds a tenant, or replaces all that is known of it but when it was created. -/
def upsertTenant (db : Database) (t : Tenant) : Database :=
  let createdAt := (db.tenants.get? t.id).elim t.createdAt.storedText TenantRow.createdAt
  { db with tenants := db.tenants.put t.id (.ofTenant t createdAt) }

def tenant (db : Database) (id : String) : Except Fault Tenant :=
  match db.tenants.get? id with
  | none => .error .notFound
  | some row =>
    match row.tenant? id with
    | none => .error .database
    | some t => .ok t

def setFeature (db : Database) (tenantId : String) (category : Category) (enabled : Bool) : Database :=
  { db with flags := db.flags.put (tenantId, category) enabled }

/-- Whether a category of replies is switched on; it is off until it is set. -/
def isEnabled (db : Database) (tenantId : String) (category : Category) : Bool :=
  (db.flags.get? (tenantId, category)).getD false

/-- Adds a rule and gives its number. -/
def insertRule (db : Database) (r : Rule) : Database × Nat :=
  let rules := db.rules.insert r
  ({ db with rules := rules }, rules.lastId)

/-- The rules of a tenant and category in the order in which they were added. One that cannot be read spoils
all. -/
def listRules (db : Database) (tenantId : String) (category : Category) : Except Fault (List Rule) :=
  match (db.rules.select tenantId category).mapM RuleRow.rule? with
  | none => .error .database
  | some rules => .ok rules

/-- Takes a rule away; the flag tells whether there was one. -/
def deleteRule (db : Database) (id : Int) : Database × Bool :=
  ({ db with rules := db.rules.erase id }, db.rules.contains id)

/-- Overwrites the text of when a tenant was created, and gives the number of rows that changed. -/
def overwriteTenantCreation (db : Database) (id createdAt : String) : Database × Nat :=
  match db.tenants.get? id with
  | none => (db, 0)
  | some row => ({ db with tenants := db.tenants.put id { row with createdAt } }, 1)

/-- Overwrites the text of when a rule was created, and gives the number of rows that changed. -/
def overwriteRuleCreation (db : Database) (id : Int) (createdAt : String) : Database × Nat :=
  ({ db with rules := db.rules.overwrite id createdAt }, if db.rules.contains id then 1 else 0)

def migrate (db : Database) : Except Fault Database := db.schema.migrate.map fun schema => { db with schema }

/-- Where a database is kept. -/
inductive Place
  | memory
  | file
  deriving DecidableEq, Repr

/-- Closes the database and opens it again. What is kept in memory is lost. -/
def reopen (place : Place) (db : Database) : Except Fault Database :=
  match place with
  | .memory => .ok empty
  | .file => db.migrate

end Database
end ReplyGateway.Store
