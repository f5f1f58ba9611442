import ReplyGateway.Rule

namespace ReplyGateway.Store

/-- A rule as it is kept, with the text of its instant. -/
structure RuleRow where
  id : Nat
  tenantId : String
  category : Category
  title : String
  replyData : String
  keywordData : String
  externalId : String
  draftData : String
  createdAt : String
  deriving DecidableEq, Repr

namespace RuleRow

/-- The row of a rule, under a number that the store gives. -/
def ofRule (id : Nat) (r : Rule) : RuleRow :=
  ⟨id, r.tenantId, r.category, r.title, r.replyData, r.keywordData, r.externalId, r.draftData,
    r.createdAt.storedText⟩

/-- The rule of a row, if its instant can be read. -/
def rule? (row : RuleRow) : Option Rule :=
  (Instant.ofText? row.createdAt).map fun createdAt =>
    ⟨row.id, row.tenantId, row.category, row.title, row.replyData, row.keywordData, row.externalId, row.draftData,
      createdAt⟩

end RuleRow

/-- The rules of a store, in the order of their numbers. Every rule gets a number that none had before it. -/
structure RuleTable where
  rows : List RuleRow
  /-- The last number that was given to a rule. -/
  lastId : Nat
  ascending : rows.Pairwise fun a b => a.id < b.id
  bounded : ∀ row ∈ rows, row.id ≤ lastId

namespace RuleTable

def empty : RuleTable := ⟨[], 0, .nil, by simp⟩

/-- Adds a rule under the next number. -/
def insert (t : RuleTable) (r : Rule) : RuleTable where
  rows := t.rows ++ [.ofRule (t.lastId + 1) r]
  lastId := t.lastId + 1
  ascending := by
    rw [List.pairwise_append]
    refine ⟨t.ascending, by simp, fun row mem new h => ?_⟩
    obtain rfl := List.mem_singleton.1 h
    exact Nat.lt_succ_of_le (t.bounded row mem)
  bounded := by
    intro row mem
    rcases List.mem_append.1 mem with mem | mem
    · exact Nat.le_succ_of_le (t.bounded row mem)
    · obtain rfl := List.mem_singleton.1 mem
      exact Nat.le_refl _

/-- Takes the rule with a number away. The number is not given again. -/
def erase (t : RuleTable) (id : Int) : RuleTable where
  rows := t.rows.filter fun row => decide ((row.id : Int) ≠ id)
  lastId := t.lastId
  ascending := t.ascending.sublist List.filter_sublist
  bounded := fun row mem => t.bounded row (List.mem_filter.1 mem).1

/-- Whether there is a rule with a number. -/
def contains (t : RuleTable) (id : Int) : Bool := t.rows.any fun row => decide ((row.id : Int) = id)

/-- Replaces the text of an instant. -/
def overwrite (t : RuleTable) (id : Int) (createdAt : String) : RuleTable where
  rows := t.rows.map fun row => { row with createdAt := if (row.id : Int) = id then createdAt else row.createdAt }
  lastId := t.lastId
  ascending := by
    rw [List.pairwise_map]
    exact t.ascending
  bounded := by
    intro row mem
    obtain ⟨old, present, rfl⟩ := List.mem_map.1 mem
    exact t.bounded old present

/-- The rows of one tenant and category. -/
def select (t : RuleTable) (tenantId : String) (category : Category) : List RuleRow :=
  t.rows.filter fun row => row.tenantId == tenantId && row.category == category

end RuleTable
end ReplyGateway.Store
