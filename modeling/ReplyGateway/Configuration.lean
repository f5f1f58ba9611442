import ReplyGateway.Error
import ReplyGateway.Store.Database

namespace ReplyGateway

/-- What the gateway knows of its tenants: the store, and perhaps a tenant that is configured outside of it. -/
structure Configuration where
  database : Store.Database
  defaultTenant : Option Credentials

namespace Configuration

/-- The credentials of a tenant; `none` if it is not known. -/
def credentials? (c : Configuration) (tenantId : String) : Except Error (Option Credentials) :=
  match c.defaultTenant.filter (·.tenantId = tenantId) with
  | some tenant => .ok (some tenant)
  | none =>
    match c.database.tenant tenantId with
    | .ok tenant => .ok (some tenant.credentials)
    | .error .notFound => .ok none
    | .error fault => .error (.store fault)

/-- A tenant that is configured outside of the store hides one of the same name in the store. -/
theorem credentials?_default {c : Configuration} {tenant : Credentials} (h : c.defaultTenant = some tenant) :
    c.credentials? tenant.tenantId = .ok (some tenant) := by
  simp [credentials?, h, Option.filter]

/-- The credentials of a tenant that has to be known. -/
def credentials (c : Configuration) (tenantId : String) : Except Error Credentials :=
  match c.credentials? tenantId with
  | .ok (some tenant) => .ok tenant
  | .ok none => .error (.configurationMissing tenantId)
  | .error e => .error e

def isEnabled (c : Configuration) (tenantId : String) (category : Category) : Bool :=
  c.database.isEnabled tenantId category

def rules (c : Configuration) (tenantId : String) (category : Category) : Except Error (List Rule) :=
  (c.database.listRules tenantId category).mapError .store

end Configuration
end ReplyGateway
