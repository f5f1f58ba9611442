import ReplyGateway.Store.Fault

namespace ReplyGateway.Store

/-- The version of a database and its tables. -/
structure Schema where
  version : Int
  tables : List String
  deriving DecidableEq, Repr

/-- What brings databases of lower versions to a version: the tables that it adds. -/
structure Migration where
  version : Int
  name : String
  tables : List String

namespace Schema

/-- All migrations, in the order of their versions. -/
def migrations : List Migration := [⟨1, "v001_initial", ["auto_replies", "feature_flags", "tenants"]⟩]

/-- The schema of a database without tables. A version that does not fit into 32 bits is lost. -/
def bare (version : Int) : Schema := ⟨if -0x80000000 ≤ version ∧ version < 0x80000000 then version else 0, []⟩

/-- Applies a migration, unless the database had its version from the start. -/
def apply (start : Int) (s : Schema) (m : Migration) : Schema :=
  if m.version ≤ start then s else ⟨m.version, s.tables ++ m.tables.filter fun t => !s.tables.contains t⟩

/-- Brings a database up to date. A negative version cannot be read. -/
def migrate (s : Schema) : Except Fault Schema :=
  if s.version < 0 then .error .database else .ok (migrations.foldl (apply s.version) s)

/-- A second migration changes nothing. -/
theorem migrate_migrate {s t : Schema} (h : s.migrate = .ok t) : t.migrate = .ok t := by
  unfold migrate at h ⊢
  split at h
  · cases h
  · obtain rfl := Except.ok.inj h
    by_cases old : s.version < 1
    · simp [migrations, apply, show ¬ (1 : Int) ≤ s.version by omega]
    · simp [migrations, apply, show (1 : Int) ≤ s.version by omega]
      omega

def current : Schema := migrations.foldl (apply 0) (bare 0)

theorem migrate_bare_zero : migrate (bare 0) = .ok current := rfl

end Schema
end ReplyGateway.Store
