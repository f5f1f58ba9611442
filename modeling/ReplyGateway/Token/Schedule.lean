import ReplyGateway.Token.Call

namespace ReplyGateway.Token

structure Task where
  tenant : Credentials
  /-- The instant from which the next step may be done; of a call that is finished, when it ended. -/
  ready : Nat
  stage : Stage

/-- Calls at work side by side on one clock, with all that they share. Time passes only while all calls wait. -/
structure Schedule (σ : Type) where
  now : Nat
  store : KeyValue
  issuer : σ
  tasks : List Task

namespace Task

def isWorking (t : Task) : Bool := !t.stage.isFinished

/-- The call that goes on next, between those before and after it: of those that are not finished, the one that may go
on first, and of those the one that stands first. -/
def next? : List Task → Option (List Task × Task × List Task)
  | [] => none
  | t :: rest =>
    match next? rest with
    | none => if t.isWorking then some ([], t, rest) else none
    | some (before, u, after) =>
      if t.isWorking && t.ready ≤ u.ready then some ([], t, rest) else some (t :: before, u, after)

theorem next?_eq_some {tasks before after : List Task} {t : Task} (h : next? tasks = some (before, t, after)) :
    tasks = before ++ t :: after ∧ t.isWorking = true := by
  induction tasks generalizing before with
  | nil => cases h
  | cons u rest ih =>
    unfold next? at h
    split at h
    · split at h
      · cases h
        exact ⟨rfl, by assumption⟩
      · cases h
    · rename_i found
      split at h
      · cases h
        simp_all
      · cases h
        obtain ⟨rfl, working⟩ := ih found
        exact ⟨rfl, working⟩

/-- The rank of all calls together. -/
def rank (tasks : List Task) : Nat := tasks.foldr (fun t n => t.stage.rank + n) 0

theorem rank_append (tasks more : List Task) : rank (tasks ++ more) = rank tasks + rank more := by
  induction tasks with
  | nil => simp [rank]
  | cons t rest ih =>
    simp only [rank, List.cons_append, List.foldr_cons] at ih ⊢
    omega

theorem rank_cons (t : Task) (rest : List Task) : rank (t :: rest) = t.stage.rank + rank rest := rfl

end Task

namespace Schedule

variable {σ : Type}

/-- Nothing at work on an empty store at the start of time. -/
def start (issuer : σ) : Schedule σ := ⟨0, .empty, issuer, []⟩

/-- One step of a call between others; a renewal that it starts comes last. -/
def advance (issuer : Issuer σ) (s : Schedule σ) (before : List Task) (t : Task) (after : List Task) : Schedule σ :=
  let now := max s.now t.ready
  let move := t.stage.step issuer t.tenant now s.store s.issuer
  let renewal : List Task := if t.stage.startsRenewal t.tenant now s.store then [⟨t.tenant, now, .renewal⟩] else []
  ⟨now, move.store, move.issuer, before ++ ⟨t.tenant, now + move.pause, move.stage⟩ :: (after ++ renewal)⟩

/-- A step brings all calls together nearer to their end, so that a run ends. -/
theorem rank_advance_lt (issuer : Issuer σ) (s : Schedule σ) {before after : List Task} {t : Task}
    (working : t.isWorking = true) :
    Task.rank (s.advance issuer before t after).tasks < Task.rank (before ++ t :: after) := by
  have step := Stage.rank_step_lt issuer t.tenant (max s.now t.ready) s.store s.issuer
    (s := t.stage) (by simpa [Task.isWorking] using working)
  have renewal (starts : Bool) (now : Nat) :
      Task.rank (if starts then [⟨t.tenant, now, .renewal⟩] else []) = if starts then Stage.renewal.rank else 0 := by
    cases starts <;> rfl
  simp only [advance, Task.rank_append, Task.rank_cons, renewal]
  omega

/-- Runs calls as long as a condition holds of the state and of the call that is next. -/
def runWhile (issuer : Issuer σ) (goesOn : Schedule σ → Task → Bool) (s : Schedule σ) : Schedule σ :=
  match _found : Task.next? s.tasks with
  | none => s
  | some (before, t, after) =>
    if goesOn s t then runWhile issuer goesOn (s.advance issuer before t after) else s
termination_by Task.rank s.tasks
decreasing_by
  have next := Task.next?_eq_some _found
  rw [next.1]
  exact rank_advance_lt issuer s next.2

/-- Forgets the calls that are finished. -/
def tidy (s : Schedule σ) : Schedule σ := { s with tasks := s.tasks.filter Task.isWorking }

/-- Runs all calls up to an instant, which then is the present. -/
def runUntil (issuer : Issuer σ) (instant : Nat) (s : Schedule σ) : Schedule σ :=
  let s := s.runWhile issuer fun _ t => decide (t.ready ≤ instant)
  { s with now := max s.now instant }.tidy

def sleep (issuer : Issuer σ) (duration : Nat) (s : Schedule σ) : Schedule σ := s.runUntil issuer (s.now + duration)

/-- Begins calls and runs until they all are finished, and the others until they have to wait. Gives the calls
as they ended. -/
def complete (issuer : Issuer σ) (calls : List Task) (s : Schedule σ) : Schedule σ × List Task :=
  let isAnyWorking := fun (s : Schedule σ) => (s.tasks.take calls.length).any Task.isWorking
  let s := { s with tasks := calls ++ s.tasks }.runWhile issuer fun s _ => isAnyWorking s
  ({ s with tasks := s.tasks.drop calls.length }.runUntil issuer s.now, s.tasks.take calls.length)

/-- Makes one call, and gives what it comes to. -/
def call (issuer : Issuer σ) (tenant : Credentials) (stage : Stage) (s : Schedule σ) :
    Schedule σ × Except Error (Option String) :=
  let (s, calls) := s.complete issuer [⟨tenant, s.now, stage⟩]
  (s, (calls.head?.bind fun t => t.stage.outcome?).getD (.ok none))

/-- The token that a call came to. -/
def required (tenant : Credentials) : Except Error (Option String) → Except Error String
  | .ok (some token) => .ok token
  | .ok none => .error (.credential s!"no token obtained for {tenant.tenantId}")
  | .error e => .error e

/-- The token of a tenant, renewed first if there is none. -/
def token (issuer : Issuer σ) (tenant : Credentials) (s : Schedule σ) : Schedule σ × Except Error String :=
  let (s, outcome) := s.call issuer tenant .reading
  (s, required tenant outcome)

/-- Throws the token of a tenant away and gets another one. -/
def replaceToken (issuer : Issuer σ) (tenant : Credentials) (s : Schedule σ) : Schedule σ × Except Error String :=
  let (s, outcome) := s.call issuer tenant .dropping
  (s, required tenant outcome)

end Schedule
end ReplyGateway.Token
