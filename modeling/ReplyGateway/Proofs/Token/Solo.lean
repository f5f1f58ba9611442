import Mathlib
import ReplyGateway.Proofs.Token.Sequence

namespace ReplyGateway.Token

theorem Task.next?_cons_of_first {t : Task} {rest : List Task} (working : t.isWorking = true)
    (first : ∀ u ∈ rest, u.isWorking = true → t.ready ≤ u.ready) : next? (t :: rest) = some ([], t, rest) := by
  rw [next?]
  cases found : next? rest with
  | none => simp [working]
  | some p =>
    obtain ⟨before, u, after⟩ := p
    obtain ⟨rfl, atWork⟩ := next?_eq_some found
    have notBefore : t.ready ≤ u.ready := first u (by simp) atWork
    simp [working, notBefore]

section Store

/-- Stores the token that the issuer gave, if it gave one, and gives the lock back. -/
def settled (store : KeyValue) (now : Nat) (tenant : Credentials) : Except Error Issued → KeyValue
  | .error _ => store.delete tenant.lockKey
  | .ok token =>
    (store.set now tenant.accessTokenKey token.value (some (min token.lifetime maxLifetime))).delete tenant.lockKey

/-- The store after a renewal that begins now and nobody disturbs. -/
def renewed (store : KeyValue) (now : Nat) (tenant : Credentials) (answer : Answer) : KeyValue :=
  settled (store.set now tenant.lockKey lockMark (some lockLifetime)) (now + answer.delay) tenant answer.result

variable (store : KeyValue) (now : Nat) (tenant : Credentials) (answer : Answer)

/-- A renewal leaves no lock, whether it fails or not. -/
theorem renewed_lock : (renewed store now tenant answer).entries.get? tenant.lockKey = none := by
  unfold renewed
  cases answer.result <;> exact Table.get?_erase_self ..

/-- What is left of the token is the new one, or the old one if the renewal fails. -/
theorem renewed_token :
    (renewed store now tenant answer).entries.get? tenant.accessTokenKey =
      match answer.result with
      | .error _ => store.entries.get? tenant.accessTokenKey
      | .ok token => some ⟨token.value, KeyValue.expiry (now + answer.delay) (min token.lifetime maxLifetime)⟩ := by
  have other : tenant.lockKey ≠ tenant.accessTokenKey := (Credentials.accessTokenKey_ne_lockKey _ _).symm
  unfold renewed
  cases answer.result with
  | error e =>
    exact (Table.get?_erase_of_ne other).trans (Table.get?_put_of_ne other)
  | ok token => exact (Table.get?_erase_of_ne other).trans (Table.get?_put_self ..)

/-- A renewal touches no keys but the two of its tenant. -/
theorem renewed_of_ne {key : String} (token : key ≠ tenant.accessTokenKey) (lock : key ≠ tenant.lockKey) :
    (renewed store now tenant answer).entries.get? key = store.entries.get? key := by
  unfold renewed
  cases answer.result with
  | error e => exact (Table.get?_erase_of_ne lock.symm).trans (Table.get?_put_of_ne lock.symm)
  | ok issued =>
    refine (Table.get?_erase_of_ne lock.symm).trans ?_
    exact (Table.get?_put_of_ne token.symm).trans (Table.get?_put_of_ne lock.symm)

/-- After it the lock can be won at once. -/
theorem setIfAbsent?_renewed (later : Nat) :
    ((renewed store now tenant answer).setIfAbsent? later tenant.lockKey lockMark lockLifetime).isSome = true := by
  have free : (renewed store now tenant answer).live? later tenant.lockKey = none := by
    rw [KeyValue.live?, renewed_lock]
    rfl
  simp [KeyValue.setIfAbsent?, free]

end Store

namespace Schedule

variable {σ : Type} (issuer : Issuer σ)

/-- Nobody else may go on before an instant, nor at it. -/
def IsQuiet (tasks : List Task) (instant : Nat) : Prop := ∀ t ∈ tasks, t.isWorking = true → instant < t.ready

theorem IsQuiet.le_ready {tasks : List Task} {instant earlier : Nat} (quiet : IsQuiet tasks instant)
    (order : earlier ≤ instant) : ∀ t ∈ tasks, t.isWorking = true → earlier ≤ t.ready :=
  fun t member working => order.trans (quiet t member working).le

/-- Whether the call that stands first is at work. -/
def isFirstWorking (s : Schedule σ) : Bool := (s.tasks.take 1).any Task.isWorking

theorem runWhile_of_next {goesOn : Schedule σ → Task → Bool} {s : Schedule σ} {before after : List Task} {t : Task}
    (found : Task.next? s.tasks = some (before, t, after)) (goes : goesOn s t = true) :
    s.runWhile issuer goesOn = (s.advance issuer before t after).runWhile issuer goesOn := by
  conv => lhs; rw [runWhile]
  split
  · rename_i none
    rw [found] at none
    cases none
  · rename_i before' t' after' found'
    obtain ⟨rfl, rfl, rfl⟩ : before' = before ∧ t' = t ∧ after' = after := by
      rw [found] at found'
      simpa [eq_comm] using found'
    rw [if_pos goes]

theorem runWhile_of_stop {goesOn : Schedule σ → Task → Bool} {s : Schedule σ}
    (stops : ∀ before t after, Task.next? s.tasks = some (before, t, after) → goesOn s t = false) :
    s.runWhile issuer goesOn = s := by
  rw [runWhile]
  split
  · rfl
  · rename_i found
    rw [stops _ _ _ found]
    rfl

/-- A call that nobody is ready before takes its step. -/
theorem runWhile_solo {now ready : Nat} {store : KeyValue} {state : σ} {tenant : Credentials} {stage : Stage}
    {rest : List Task} (working : stage.isFinished = false)
    (starts : stage.startsRenewal tenant (max now ready) store = false)
    (first : ∀ u ∈ rest, u.isWorking = true → ready ≤ u.ready) :
    (⟨now, store, state, ⟨tenant, ready, stage⟩ :: rest⟩ : Schedule σ).runWhile issuer (fun s _ => s.isFirstWorking) =
      let move := stage.step issuer tenant (max now ready) store state
      (⟨max now ready, move.store, move.issuer, ⟨tenant, max now ready + move.pause, move.stage⟩ :: rest⟩ :
        Schedule σ).runWhile issuer fun s _ => s.isFirstWorking := by
  have atWork : (⟨tenant, ready, stage⟩ : Task).isWorking = true := by simp [Task.isWorking, working]
  have next := Task.next?_cons_of_first atWork first
  rw [runWhile_of_next issuer next (by simp [isFirstWorking, atWork])]
  simp only [advance, starts, Bool.false_eq_true, if_false, List.nil_append, List.append_nil]

theorem runWhile_of_isFinished {s : Schedule σ} {t : Task} {rest : List Task} (tasks : s.tasks = t :: rest)
    (finished : t.stage.isFinished = true) : s.runWhile issuer (fun s _ => s.isFirstWorking) = s := by
  refine runWhile_of_stop issuer fun _ _ _ _ => ?_
  simp [isFirstWorking, tasks, Task.isWorking, finished]

/-- A schedule in which a call has just begun. -/
def begun (s : Schedule σ) (tenant : Credentials) (stage : Stage) : Schedule σ :=
  { s with tasks := ⟨tenant, s.now, stage⟩ :: s.tasks }

/-- A call goes on until it is finished, and then whoever else is ready. -/
theorem call_eq {s ran : Schedule σ} {tenant : Credentials} {stage : Stage} {t : Task} {rest : List Task}
    (ran_eq : (s.begun tenant stage).runWhile issuer (fun s _ => s.isFirstWorking) = ran)
    (tasks : ran.tasks = t :: rest) :
    s.call issuer tenant stage =
      (({ ran with tasks := rest } : Schedule σ).runUntil issuer ran.now, t.stage.outcome?.getD (.ok none)) := by
  subst ran_eq
  have first : (fun (s : Schedule σ) (_ : Task) => (s.tasks.take 1).any Task.isWorking) =
      fun s _ => s.isFirstWorking := rfl
  have same : ({ s with tasks := [⟨tenant, s.now, stage⟩] ++ s.tasks } : Schedule σ) = s.begun tenant stage := rfl
  simp only [call, complete, List.length_singleton, same, first, tasks, List.drop_one, List.tail_cons,
    List.take_succ_cons, List.take_zero, List.head?_cons, Option.bind_some]

/-- What every step keeps, a run keeps. -/
theorem runWhile_keeps (P : Schedule σ → Prop) {s : Schedule σ}
    (kept : ∀ {s : Schedule σ} {before : List Task} {t : Task} {after : List Task}, P s →
      Task.next? s.tasks = some (before, t, after) → P (s.advance issuer before t after))
    (goesOn : Schedule σ → Task → Bool) (holds : P s) : P (s.runWhile issuer goesOn) := by
  fun_induction Schedule.runWhile issuer goesOn s with
  | case1 s => exact holds
  | case2 s before t after found goes ih => exact ih (kept holds found)
  | case3 s => exact holds

/-- No call is forgotten before all is over. -/
theorem runWhile_ne_nil {goesOn : Schedule σ → Task → Bool} {s : Schedule σ} (some' : s.tasks ≠ []) :
    (s.runWhile issuer goesOn).tasks ≠ [] := by
  refine runWhile_keeps issuer (fun s => s.tasks ≠ []) (fun _ _ => ?_) goesOn some'
  simp [advance]

/-- When it is over, the call that stands first is finished. -/
theorem isFirstWorking_runWhile (s : Schedule σ) :
    (s.runWhile issuer fun s _ => s.isFirstWorking).isFirstWorking = false := by
  rcases runWhile_stops issuer (fun s _ => s.isFirstWorking) s with none | ⟨_, stops⟩
  · refine List.any_eq_false.mpr fun t member => ?_
    simp [Task.isWorking_of_next?_eq_none none t (List.mem_of_mem_take member)]
  · exact stops

/-- Whatever holds when the calls at work have brought the first one to its end, a call gives what it ended with. -/
theorem exists_call_eq (s : Schedule σ) (tenant : Credentials) (stage : Stage) :
    ∃ ran t rest, (s.begun tenant stage).runWhile issuer (fun s _ => s.isFirstWorking) = ran ∧ ran.tasks = t :: rest ∧
      t.stage.isFinished = true ∧ s.call issuer tenant stage =
        (({ ran with tasks := rest } : Schedule σ).runUntil issuer ran.now, t.stage.outcome?.getD (.ok none)) := by
  obtain ⟨ran, ran_eq⟩ : ∃ ran, (s.begun tenant stage).runWhile issuer (fun s _ => s.isFirstWorking) = ran := ⟨_, rfl⟩
  obtain ⟨t, rest, tasks⟩ : ∃ t rest, ran.tasks = t :: rest :=
    List.exists_cons_of_ne_nil (ran_eq ▸ runWhile_ne_nil issuer (List.cons_ne_nil _ _))
  have ended : ran.isFirstWorking = false := ran_eq ▸ isFirstWorking_runWhile issuer (s.begun tenant stage)
  have finished : t.stage.isFinished = true := by simpa [isFirstWorking, tasks, Task.isWorking] using ended
  exact ⟨ran, t, rest, ran_eq, tasks, finished, call_eq issuer ran_eq tasks⟩

/-- What a call comes to, if nobody else goes on in the meantime. -/
theorem call_of_runWhile {s : Schedule σ} {tenant : Credentials} {stage : Stage} {later : Nat} {store : KeyValue}
    {state : σ} {t : Task} {rest : List Task} {outcome : Except Error (Option String)}
    (ran : (s.begun tenant stage).runWhile issuer (fun s _ => s.isFirstWorking) = ⟨later, store, state, t :: rest⟩)
    (ended : t.stage = .finished outcome) (quiet : IsQuiet rest later) :
    s.call issuer tenant stage = (⟨later, store, state, rest.filter Task.isWorking⟩, outcome) := by
  have still : (⟨later, store, state, rest⟩ : Schedule σ).runWhile issuer (fun _ t => decide (t.ready ≤ later)) =
      ⟨later, store, state, rest⟩ := by
    refine runWhile_of_stop issuer fun before u after found => ?_
    obtain ⟨tasks, working⟩ := Task.next?_eq_some found
    have among : rest = before ++ u :: after := tasks
    have notYet : later < u.ready := quiet u (among ▸ by simp) working
    simpa using notYet
  rw [call_eq issuer ran rfl, ended]
  simp only [runUntil, still, max_self, tidy, Stage.outcome?, Option.getD_some]

section Stages

variable {now later : Nat} {store : KeyValue} {state : σ} {tenant : Credentials} {rest : List Task}

/-- From the answer of the issuer on, nothing has to be waited for. -/
theorem runWhile_awaiting (order : now ≤ later) (first : ∀ u ∈ rest, u.isWorking = true → later ≤ u.ready)
    (result : Except Error Issued) :
    (⟨now, store, state, ⟨tenant, later, .awaiting result⟩ :: rest⟩ : Schedule σ).runWhile issuer
        (fun s _ => s.isFirstWorking) =
      ⟨later, settled store later tenant result, state,
        ⟨tenant, later, .finished (result.map fun token => some token.value)⟩ :: rest⟩ := by
  have present : max now later = later := Nat.max_eq_right order
  rw [runWhile_solo issuer rfl rfl first, present]
  cases result with
  | error e =>
    simp only [Stage.step, Nat.add_zero]
    rw [runWhile_solo issuer rfl rfl first, max_self]
    simp only [Stage.step, Nat.add_zero]
    rw [runWhile_of_isFinished issuer rfl rfl]
    rfl
  | ok token =>
    simp only [Stage.step, Nat.add_zero]
    rw [runWhile_solo issuer rfl rfl first, max_self]
    simp only [Stage.step, Nat.add_zero]
    rw [runWhile_solo issuer rfl rfl first, max_self]
    simp only [Stage.step, Nat.add_zero]
    rw [runWhile_of_isFinished issuer rfl rfl]
    rfl

/-- Where the lock is free, the call that tries for it comes to wait for the issuer. -/
theorem runWhile_locking (waits : Bool) (free : store.live? now tenant.lockKey = none)
    (first : ∀ u ∈ rest, u.isWorking = true → now ≤ u.ready) :
    (⟨now, store, state, ⟨tenant, now, .locking waits⟩ :: rest⟩ : Schedule σ).runWhile issuer
        (fun s _ => s.isFirstWorking) =
      (⟨now, store.set now tenant.lockKey lockMark (some lockLifetime), (issuer tenant state).2,
        ⟨tenant, now + (issuer tenant state).1.delay, .awaiting (issuer tenant state).1.result⟩ :: rest⟩ :
          Schedule σ).runWhile issuer fun s _ => s.isFirstWorking := by
  have won : store.setIfAbsent? now tenant.lockKey lockMark lockLifetime =
      some (store.set now tenant.lockKey lockMark (some lockLifetime)) := by
    simp [KeyValue.setIfAbsent?, free]
  rw [runWhile_solo issuer rfl rfl first, max_self]
  simp only [Stage.step, won, Nat.add_zero]
  rw [runWhile_solo issuer rfl rfl first, max_self]
  simp only [Stage.step]

end Stages

/-- A token that is there and not low is all that a call looks at. -/
theorem token_of_stored {s : Schedule σ} {tenant : Credentials} {token : String}
    (found : stored? s.store s.now tenant = some token) (lasts : isLow s.store s.now tenant = false)
    (quiet : IsQuiet s.tasks s.now) :
    s.token issuer tenant = ({ s with tasks := s.tasks.filter Task.isWorking }, .ok token) := by
  have first := quiet.le_ready (Nat.le_refl _)
  have starts : (Stage.measuring token).startsRenewal tenant (max s.now s.now) s.store = false := by
    rwa [max_self]
  have ran : (s.begun tenant .reading).runWhile issuer (fun s _ => s.isFirstWorking) =
      ⟨s.now, s.store, s.issuer, ⟨tenant, s.now, .finished (.ok (some token))⟩ :: s.tasks⟩ := by
    rw [begun, runWhile_solo issuer rfl rfl first, max_self]
    simp only [Stage.step, Nat.add_zero, found]
    rw [runWhile_solo issuer rfl starts first, max_self]
    simp only [Stage.step, Nat.add_zero]
    rw [runWhile_of_isFinished issuer rfl rfl]
  rw [Schedule.token, call_of_runWhile issuer ran rfl quiet]
  rfl

/-- A renewal that wins the lock asks the issuer once, stores the token if it gets one, and gives the lock back. -/
theorem call_locking {s : Schedule σ} {tenant : Credentials} (waits : Bool)
    (free : s.store.live? s.now tenant.lockKey = none)
    (quiet : IsQuiet s.tasks (s.now + (issuer tenant s.issuer).1.delay)) :
    s.call issuer tenant (.locking waits) =
      (⟨s.now + (issuer tenant s.issuer).1.delay, renewed s.store s.now tenant (issuer tenant s.issuer).1,
        (issuer tenant s.issuer).2, s.tasks.filter Task.isWorking⟩,
        (issuer tenant s.issuer).1.result.map fun token => some token.value) := by
  have order : s.now ≤ s.now + (issuer tenant s.issuer).1.delay := Nat.le_add_right ..
  have ran : (s.begun tenant (.locking waits)).runWhile issuer (fun s _ => s.isFirstWorking) = _ :=
    runWhile_locking issuer waits free (quiet.le_ready order)
  rw [runWhile_awaiting issuer order (quiet.le_ready (Nat.le_refl _))] at ran
  exact call_of_runWhile issuer ran rfl quiet

/-- A call that throws the token away goes on as a renewal of a store without it. -/
theorem runWhile_dropping {now : Nat} {store : KeyValue} {state : σ} {tenant : Credentials} {rest : List Task}
    (first : ∀ u ∈ rest, u.isWorking = true → now ≤ u.ready) :
    (⟨now, store, state, ⟨tenant, now, .dropping⟩ :: rest⟩ : Schedule σ).runWhile issuer
        (fun s _ => s.isFirstWorking) =
      (⟨now, store.delete tenant.accessTokenKey, state, ⟨tenant, now, .locking true⟩ :: rest⟩ :
        Schedule σ).runWhile issuer fun s _ => s.isFirstWorking := by
  rw [runWhile_solo issuer rfl rfl first]
  simp only [Stage.step, max_self, Nat.add_zero]

/-- To replace a token is a renewal of a store without it, if nobody else goes on in the meantime. -/
theorem replaceToken_of_quiet {s : Schedule σ} {tenant : Credentials} (free : s.store.live? s.now tenant.lockKey = none)
    (quiet : IsQuiet s.tasks (s.now + (issuer tenant s.issuer).1.delay)) :
    s.replaceToken issuer tenant =
      (⟨s.now + (issuer tenant s.issuer).1.delay,
        renewed (s.store.delete tenant.accessTokenKey) s.now tenant (issuer tenant s.issuer).1,
        (issuer tenant s.issuer).2, s.tasks.filter Task.isWorking⟩,
        (issuer tenant s.issuer).1.result.map Issued.value) := by
  have order : s.now ≤ s.now + (issuer tenant s.issuer).1.delay := Nat.le_add_right ..
  have stillFree : (s.store.delete tenant.accessTokenKey).live? s.now tenant.lockKey = none :=
    (KeyValue.live?_delete_of_ne (Credentials.accessTokenKey_ne_lockKey _ _)).trans free
  have first := quiet.le_ready order
  have ran : (s.begun tenant .dropping).runWhile issuer (fun s _ => s.isFirstWorking) = _ :=
    runWhile_dropping issuer first
  rw [runWhile_locking issuer true stillFree first,
    runWhile_awaiting issuer order (quiet.le_ready (Nat.le_refl _))] at ran
  rw [replaceToken, call_of_runWhile issuer ran rfl quiet]
  cases result : (issuer tenant s.issuer).1.result <;> simp only [renewed, result, Except.map, required]

end Schedule
end ReplyGateway.Token
