import ReplyGateway.Recency

namespace ReplyGateway.Recency

/-- A call for the entry under a key. -/
structure Call (K : Type) where
  id : Nat
  key : K

/-- A cache that several calls share. One call at a time has the cache, also while it constructs an entry; the others
stand in line. -/
structure Shared (K V ε : Type) where
  cache : Recency K V
  /-- The call that constructs its entry. -/
  constructing : Option (Call K)
  line : List (Call K)
  /-- What calls have come to, in the order in which they had the cache. -/
  ended : List (Nat × Except ε V)

namespace Shared

variable {K V ε σ : Type} [DecidableEq K]

/-- A cache that no call waits for. -/
def idle (cache : Recency K V) : Shared K V ε := ⟨cache, none, [], []⟩

/-- Serves a line as far as the entries are there. -/
def serve (cache : Recency K V) (ended : List (Nat × Except ε V)) : List (Call K) → Shared K V ε
  | [] => ⟨cache, none, [], ended⟩
  | call :: line =>
    match cache.find? call.key with
    | some value => serve (cache.touch call.key) (ended ++ [(call.id, .ok value)]) line
    | none => ⟨cache, some call, line, ended⟩

/-- Serves the line if nobody has the cache. -/
def settle (s : Shared K V ε) : Shared K V ε :=
  match s.constructing with
  | none => serve s.cache s.ended s.line
  | some _ => s

def arrive (s : Shared K V ε) (call : Call K) : Shared K V ε := { s with line := s.line ++ [call] }.settle

/-- The construction at work ends. -/
def complete (s : Shared K V ε) (result : Except ε V) : Shared K V ε :=
  match s.constructing with
  | none => s
  | some call =>
    let cache := match result with
      | .ok value => s.cache.add call.key value
      | .error _ => s.cache
    serve cache (s.ended ++ [(call.id, result)]) s.line

def cancel (s : Shared K V ε) (id : Nat) : Shared K V ε :=
  { s with
    constructing := s.constructing.filter fun call => decide (call.id ≠ id)
    line := s.line.filter fun call => decide (call.id ≠ id) }.settle

/-- How many calls have the cache or wait for it, if one has it. -/
def pending (s : Shared K V ε) : Nat := s.constructing.elim 0 fun _ => s.line.length + 1

theorem pending_serve_le (cache : Recency K V) (ended : List (Nat × Except ε V)) (line : List (Call K)) :
    (serve cache ended line).pending ≤ line.length := by
  induction line generalizing cache ended with
  | nil => simp [serve, pending]
  | cons call line ih =>
    unfold serve
    split
    · exact Nat.le_succ_of_le (ih ..)
    · simp [pending]

/-- With every construction that ends the line gets shorter. -/
theorem pending_complete_lt {s : Shared K V ε} {call : Call K} (h : s.constructing = some call)
    (result : Except ε V) : (s.complete result).pending < s.pending := by
  simp only [complete, h]
  rw [show s.pending = s.line.length + 1 by simp [pending, h]]
  exact Nat.lt_succ_of_le (pending_serve_le ..)

/-- Constructs entries until no call is left. -/
def finish (construct : K → σ → Except ε V × σ) (s : Shared K V ε) (state : σ) : Shared K V ε × σ :=
  match _holder : s.constructing with
  | none => (s, state)
  | some call =>
    let (result, state) := construct call.key state
    finish construct (s.complete result) state
termination_by s.pending
decreasing_by exact pending_complete_lt _holder _

end Shared
end ReplyGateway.Recency
