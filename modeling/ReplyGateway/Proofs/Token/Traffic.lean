import Mathlib
import ReplyGateway.Proofs.Token.Move
import ReplyGateway.Token.Schedule

namespace ReplyGateway.Token

/-- A call beside others, which its caller may have given up. -/
structure Caller extends Task where
  isCancelled : Bool

/-- Calls over one store, in the order in which they began. They are interleaved in any order, and answers of the
issuer may be anything. -/
structure Traffic where
  now : Nat
  store : KeyValue
  callers : List Caller

/-- What a call does. -/
inductive Deed
  | begins (stage : Stage)
  | steps (before after : Stage)
  | cancelled

/-- A call, by its place in the order in which the calls began, does something at an instant. -/
structure Event where
  instant : Nat
  call : Nat
  tenant : Credentials
  deed : Deed

def Caller.isAtWork (c : Caller) : Bool := !c.isCancelled && c.isWorking

theorem Caller.isAtWork_iff {c : Caller} :
    c.isAtWork = true ↔ c.isCancelled = false ∧ c.stage.isFinished = false := by
  simp [isAtWork, Task.isWorking]

namespace Event

variable (tenant : Credentials) (token : Issued) (e : Event)

/-- A call wins the lock of a tenant. -/
def Wins : Prop := e.tenant.tenantId = tenant.tenantId ∧ ∃ waits, e.deed = .steps (.locking waits) .asking

/-- A call asks the issuer, whose answer is going to be this token. -/
def Asks : Prop := e.tenant.tenantId = tenant.tenantId ∧ e.deed = .steps .asking (.awaiting (.ok token))

/-- A call stores a token of a tenant. -/
def Stores : Prop := e.tenant.tenantId = tenant.tenantId ∧ ∃ after, e.deed = .steps (.storing token) after

/-- A call gives the lock back, or takes away that of another call. -/
def Releases : Prop := ∃ outcome after, e.deed = .steps (.releasing outcome) after

def Cancels : Prop := e.deed = .cancelled

end Event

namespace Traffic

/-- One step of a call at an instant, and the renewal that it may start beside it. -/
def advance (s : Traffic) (call : Nat) (c : Caller) (answer : Answer) (instant : Nat) : Traffic :=
  let move := c.stage.move answer c.tenant instant s.store
  let renewal : List Caller :=
    if c.stage.startsRenewal c.tenant instant s.store then [⟨⟨c.tenant, instant, .renewal⟩, false⟩] else []
  ⟨instant, move.store, s.callers.set call ⟨⟨c.tenant, instant + move.pause, move.stage⟩, false⟩ ++ renewal⟩

/-- Any call may begin at any time, go on at any time from when it may, with any answer if it asks the issuer,
and be cancelled at any time before it is finished. -/
inductive Next : Traffic → Event → Traffic → Prop
  | begin {s : Traffic} {tenant : Credentials} {stage : Stage} {instant : Nat} :
      stage.isEntry = true → s.now ≤ instant →
      Next s ⟨instant, s.callers.length, tenant, .begins stage⟩
        ⟨instant, s.store, s.callers ++ [⟨⟨tenant, instant, stage⟩, false⟩]⟩
  | step {s : Traffic} {call : Nat} {c : Caller} {answer : Answer} {instant : Nat} :
      s.callers[call]? = some c → c.isAtWork = true → s.now ≤ instant → c.ready ≤ instant →
      Next s ⟨instant, call, c.tenant, .steps c.stage (c.stage.move answer c.tenant instant s.store).stage⟩
        (s.advance call c answer instant)
  | cancel {s : Traffic} {call : Nat} {c : Caller} {instant : Nat} :
      s.callers[call]? = some c → c.isAtWork = true → s.now ≤ instant →
      Next s ⟨instant, call, c.tenant, .cancelled⟩
        ⟨instant, s.store, s.callers.set call { c with isCancelled := true }⟩

/-- A traffic comes to another one by events, one after another, on a clock that never goes back. -/
inductive Run (s : Traffic) : List Event → Traffic → Prop
  | start : Run s [] s
  | next {events : List Event} {t u : Traffic} {e : Event} : Run s events t → Next t e u → Run s (events ++ [e]) u

/-- Whether a call for a tenant is at work between winning the lock and giving it back. -/
def Holds (s : Traffic) (tenant : Credentials) (call : Nat) : Prop :=
  ∃ c, s.callers[call]? = some c ∧ c.isCancelled = false ∧ c.tenant.tenantId = tenant.tenantId ∧
    c.stage.isHolding = true

/-- Whether a call is finished or cancelled. -/
def IsOver (s : Traffic) (call : Nat) : Prop := ∃ c, s.callers[call]? = some c ∧ c.isAtWork = false

variable {s t u : Traffic} {e : Event} {events more : List Event} {tenant : Credentials} {call : Nat} {c : Caller}

theorem callers_advance_of_ne {other : Nat} {answer : Answer} {instant : Nat} (h : other ≠ call)
    (found : s.callers[other]? = some c) {d : Caller} :
    (s.advance call d answer instant).callers[other]? = some c := by
  have bound := (List.getElem?_eq_some_iff.mp found).1
  simp only [advance]
  rw [List.getElem?_append_left (by simpa using bound), List.getElem?_set_ne (Ne.symm h), found]

theorem callers_advance_self {answer : Answer} {instant : Nat} (found : s.callers[call]? = some c) :
    (s.advance call c answer instant).callers[call]? =
      some ⟨⟨c.tenant, instant + (c.stage.move answer c.tenant instant s.store).pause,
        (c.stage.move answer c.tenant instant s.store).stage⟩, false⟩ := by
  have bound := (List.getElem?_eq_some_iff.mp found).1
  simp only [advance]
  rw [List.getElem?_append_left (by simpa using bound), List.getElem?_set_self bound]

theorem Next.now_le (next : Next s e u) : s.now ≤ e.instant := by cases next <;> assumption

theorem Next.now_eq (next : Next s e u) : u.now = e.instant := by cases next <;> rfl

/-- An event changes no call but its own. -/
theorem Next.caller_kept (next : Next s e u) (other : call ≠ e.call) (found : s.callers[call]? = some c) :
    u.callers[call]? = some c := by
  cases next with
  | begin =>
    have bound := (List.getElem?_eq_some_iff.mp found).1
    rw [List.getElem?_append_left bound, found]
  | step => exact callers_advance_of_ne other found
  | cancel => rw [List.getElem?_set_ne (Ne.symm other), found]

/-- A call beside that of an event was there before, or it is a renewal that begins. -/
theorem Next.caller_cases (next : Next s e u) (other : call ≠ e.call) (found : u.callers[call]? = some c) :
    s.callers[call]? = some c ∨ c.stage.isEntry = true := by
  by_cases bound : call < s.callers.length
  · left
    have before := List.getElem?_eq_getElem bound
    rw [next.caller_kept other before, ← before] at found
    exact before.trans (before.symm.trans found)
  · right
    cases next with
    | begin =>
      have length := (List.getElem?_eq_some_iff.mp found).1
      simp only [List.length_append, List.length_singleton] at length other
      omega
    | step =>
      simp only [advance] at found
      rw [List.getElem?_append_right (by simpa using bound)] at found
      have member := List.mem_of_getElem? found
      split at member
      · simp only [List.mem_singleton] at member
        rw [member]
        rfl
      · simp at member
    | cancel => simp [bound] at found

theorem Next.ne_of_over (next : Next s e u) (ended : s.IsOver call) : e.call ≠ call := by
  rintro rfl
  obtain ⟨c, found, ended⟩ := ended
  cases next with
  | begin => simp at found
  | step found' working => simp_all
  | cancel found' working => simp_all

theorem Next.over_kept (next : Next s e u) (ended : s.IsOver call) : u.IsOver call := by
  have other := next.ne_of_over ended
  obtain ⟨c, found, ended⟩ := ended
  exact ⟨c, next.caller_kept (Ne.symm other) found, ended⟩

/-- Who gives the lock back or is cancelled does nothing more. -/
theorem Next.over_of_ends (next : Next s e u) (ends : e.Releases ∨ e.Cancels) : u.IsOver e.call := by
  cases next with
  | begin => simp [Event.Releases, Event.Cancels] at ends
  | step found working =>
    refine ⟨_, callers_advance_self found, ?_⟩
    simp only [Event.Releases, Event.Cancels, Deed.steps.injEq, reduceCtorEq, or_false] at ends
    obtain ⟨outcome, _, releasing, _⟩ := ends
    simp [releasing, Stage.move, Stage.step, Caller.isAtWork, Task.isWorking, Stage.isFinished]
  | cancel found working =>
    have bound := (List.getElem?_eq_some_iff.mp found).1
    exact ⟨_, List.getElem?_set_self bound, by simp [Caller.isAtWork]⟩

/-- An event brings no call farther from its end. -/
theorem Next.rank_le (next : Next s e u) (found : s.callers[call]? = some c) :
    ∃ d, u.callers[call]? = some d ∧ d.stage.rank ≤ c.stage.rank := by
  by_cases same : call = e.call
  · subst same
    cases next with
    | begin => simp at found
    | @step _ _ answer instant found' working =>
      obtain rfl := Option.some.inj (found.symm.trans found')
      refine ⟨_, callers_advance_self found, ?_⟩
      have unfinished := (Caller.isAtWork_iff.mp working).2
      have less := Stage.rank_step_lt (fun _ _ => (answer, ())) c.tenant instant s.store () unfinished
      exact Nat.le_of_lt (Nat.lt_of_le_of_lt (Nat.le_add_right ..) less)
    | cancel found' working =>
      obtain rfl := Option.some.inj (found.symm.trans found')
      have bound := (List.getElem?_eq_some_iff.mp found).1
      exact ⟨_, List.getElem?_set_self bound, Nat.le_refl _⟩
  · exact ⟨c, next.caller_kept same found, Nat.le_refl _⟩

/-- What an event does to the lock of a tenant: somebody wins it, or gives it back, or it stays as it is. -/
theorem Next.lock_cases (next : Next s e u) (tenant : Credentials) :
    (e.Wins tenant ∧ s.store.live? e.instant tenant.lockKey = none ∧
        u.store.entries.get? tenant.lockKey = some ⟨lockMark, KeyValue.expiry e.instant lockLifetime⟩) ∨
      (¬ e.Wins tenant ∧ s.Holds tenant e.call ∧ e.Releases) ∨
      (¬ e.Wins tenant ∧ u.store.entries.get? tenant.lockKey = s.store.entries.get? tenant.lockKey) := by
  cases next with
  | begin => exact .inr (.inr ⟨by simp [Event.Wins], rfl⟩)
  | cancel => exact .inr (.inr ⟨by simp [Event.Wins], rfl⟩)
  | @step call c answer instant found working =>
    by_cases own : c.tenant.tenantId = tenant.tenantId
    · have lock : c.tenant.lockKey = tenant.lockKey := Credentials.lockKey_inj.mpr own
      rcases Stage.lock_move_cases answer c.tenant instant s.store c.stage with
        ⟨⟨waits, locking⟩, free, asking, entry⟩ | ⟨⟨outcome, releasing⟩, _, _⟩ | ⟨_, _, notAsking, kept⟩
      · left
        refine ⟨⟨own, waits, ?_⟩, lock ▸ free, lock ▸ entry⟩
        rw [asking, locking]
      · right; left
        refine ⟨?_, ⟨c, found, (Caller.isAtWork_iff.mp working).1, own, ?_⟩, outcome, ?_⟩
        · simp [Event.Wins, releasing]
        · simp [releasing, Stage.isHolding]
        · rw [releasing]
          exact ⟨_, rfl⟩
      · right; right
        refine ⟨?_, lock ▸ kept⟩
        rintro ⟨_, _, deed⟩
        exact notAsking (Deed.steps.inj deed).2
    · right; right
      refine ⟨fun wins => own wins.1, ?_⟩
      refine Stage.entries_move_of_ne answer c.tenant instant s.store c.stage ?_ ?_
      · exact Credentials.accessTokenKey_ne_lockKey _ _
      · exact fun same => own (Credentials.lockKey_inj.mp same)

/-- Who holds the lock after an event has just won it, or held it before and did not give it back. -/
theorem Next.holds_cases (next : Next s e u) (holds : u.Holds tenant call) :
    (e.Wins tenant ∧ e.call = call) ∨ (s.Holds tenant call ∧ ¬ (e.Releases ∧ e.call = call)) := by
  obtain ⟨d, found, working, own, holding⟩ := holds
  by_cases same : call = e.call
  · subst same
    cases next with
    | begin entry =>
      simp only [List.getElem?_concat_length, Option.some.injEq] at found
      subst found
      rw [Stage.not_isHolding_of_isEntry entry] at holding
      cases holding
    | @step call c answer instant before working' =>
      rw [callers_advance_self before, Option.some.injEq] at found
      subst found
      rcases Stage.lock_move_cases answer c.tenant instant s.store c.stage with
        ⟨⟨waits, locking⟩, _, asking, _⟩ | ⟨_, finished, _⟩ | ⟨held, notReleasing, _, _⟩
      · exact .inl ⟨⟨own, waits, by rw [asking, locking]⟩, rfl⟩
      · revert holding finished
        cases (c.stage.move answer c.tenant instant s.store).stage <;> simp [Stage.isHolding, Stage.isFinished]
      · right
        refine ⟨⟨c, before, (Caller.isAtWork_iff.mp working').1, own, held holding⟩, ?_⟩
        rintro ⟨⟨outcome, _, deed⟩, _⟩
        exact notReleasing outcome (Deed.steps.inj deed).1
    | cancel before =>
      have bound := (List.getElem?_eq_some_iff.mp before).1
      rw [List.getElem?_set_self bound, Option.some.injEq] at found
      subst found
      cases working
  · right
    refine ⟨?_, fun releases => same releases.2.symm⟩
    rcases next.caller_cases same found with before | entry
    · exact ⟨d, before, working, own, holding⟩
    · rw [Stage.not_isHolding_of_isEntry entry] at holding
      cases holding

theorem Run.eq_of_nil (run : s.Run [] t) : t = s := by
  generalize empty : [] = events at run
  cases run with
  | start => rfl
  | next => simp at empty

theorem Run.append (first : s.Run events t) (second : t.Run more u) : s.Run (events ++ more) u := by
  induction second with
  | start => simpa using first
  | next _ next ih => simpa using ih.next next

theorem Run.cons (next : s.Next e t) (run : t.Run events u) : s.Run (e :: events) u :=
  (Run.start.next next).append run

theorem Run.uncons (run : s.Run (e :: events) u) : ∃ t, s.Next e t ∧ t.Run events u := by
  generalize joined : e :: events = all at run
  induction run generalizing events with
  | start => cases joined
  | @next init t u last run next ih =>
    cases init with
    | nil =>
      obtain ⟨rfl, rfl⟩ := List.cons_eq_cons.mp joined
      obtain rfl := run.eq_of_nil
      exact ⟨u, next, .start⟩
    | cons first rest =>
      obtain ⟨rfl, rfl⟩ := List.cons_eq_cons.mp joined
      obtain ⟨m, head, tail⟩ := ih rfl
      exact ⟨m, head, tail.next next⟩

theorem Run.split (run : s.Run (events ++ more) u) : ∃ t, s.Run events t ∧ t.Run more u := by
  induction events generalizing s with
  | nil => exact ⟨s, .start, run⟩
  | cons e events ih =>
    obtain ⟨t, next, rest⟩ := run.uncons
    obtain ⟨m, first, second⟩ := ih rest
    exact ⟨m, .cons next first, second⟩

theorem Run.split_cons (run : s.Run (events ++ e :: more) u) : ∃ a b, s.Run events a ∧ a.Next e b ∧ b.Run more u := by
  obtain ⟨a, past, future⟩ := run.split
  obtain ⟨b, next, future⟩ := future.uncons
  exact ⟨a, b, past, next, future⟩

/-- What was before and after an event of a run. -/
theorem Run.around (run : s.Run events u) (member : e ∈ events) :
    ∃ before after a b, events = before ++ e :: after ∧ s.Run before a ∧ a.Next e b ∧ b.Run after u := by
  obtain ⟨before, after, rfl⟩ := List.append_of_mem member
  obtain ⟨a, b, past, next, future⟩ := run.split_cons
  exact ⟨before, after, a, b, rfl, past, next, future⟩

theorem Run.now_le (run : s.Run events u) : s.now ≤ u.now := by
  induction run with
  | start => exact Nat.le_refl _
  | next _ next ih => exact Nat.le_trans ih (next.now_eq ▸ next.now_le)

/-- What has happened is not after the present. -/
theorem Run.instant_le (run : s.Run events u) (member : e ∈ events) : e.instant ≤ u.now := by
  induction run with
  | start => cases member
  | next _ next ih =>
    rw [next.now_eq]
    rcases List.mem_append.mp member with old | new
    · exact Nat.le_trans (ih old) next.now_le
    · rw [List.mem_singleton.mp new]

/-- What is to happen is not before the present. -/
theorem Run.le_instant (run : s.Run events u) (member : e ∈ events) : s.now ≤ e.instant := by
  induction run with
  | start => cases member
  | next run next ih =>
    rcases List.mem_append.mp member with old | new
    · exact ih old
    · rw [List.mem_singleton.mp new]
      exact Nat.le_trans run.now_le next.now_le

theorem Run.over_kept (run : s.Run events u) (ended : s.IsOver call) : u.IsOver call := by
  induction run with
  | start => exact ended
  | next _ next ih => exact next.over_kept ih

/-- A call that is over does nothing more. -/
theorem Run.call_ne_of_over (run : s.Run events u) (ended : s.IsOver call) (member : e ∈ events) : e.call ≠ call := by
  induction run with
  | start => cases member
  | next run next ih =>
    rcases List.mem_append.mp member with old | new
    · exact ih old
    · rw [List.mem_singleton.mp new]
      exact next.ne_of_over (run.over_kept ended)

theorem Run.over_of_ends (run : s.Run events u) (member : e ∈ events) (ends : e.Releases ∨ e.Cancels) :
    u.IsOver e.call := by
  induction run with
  | start => cases member
  | next run next ih =>
    rcases List.mem_append.mp member with old | new
    · exact next.over_kept (ih old)
    · obtain rfl := List.mem_singleton.mp new
      exact next.over_of_ends ends

theorem Run.rank_le (run : s.Run events u) (found : s.callers[call]? = some c) :
    ∃ d, u.callers[call]? = some d ∧ d.stage.rank ≤ c.stage.rank := by
  induction run with
  | start => exact ⟨c, found, Nat.le_refl _⟩
  | next _ next ih =>
    obtain ⟨d, found, le⟩ := ih
    obtain ⟨d', found', le'⟩ := next.rank_le found
    exact ⟨d', found', Nat.le_trans le' le⟩

theorem Holds.not_isOver (holds : s.Holds tenant call) : ¬ s.IsOver call := by
  rintro ⟨d, found', ended⟩
  obtain ⟨c, found, working, _, holding⟩ := holds
  obtain rfl := Option.some.inj (found.symm.trans found')
  revert holding ended
  cases stage : c.stage <;> simp [Stage.isHolding, Caller.isAtWork, Task.isWorking, Stage.isFinished, working, stage]

/-- A token that is not stored yet was asked for, unless its call held the lock from the start. -/
theorem Run.asked_of_issued {token : Issued} (run : s.Run events u) (found : u.callers[call]? = some c)
    (own : c.tenant.tenantId = tenant.tenantId) (working : c.isCancelled = false)
    (issued : c.stage.issued? = some token) :
    (∃ e ∈ events, e.call = call ∧ e.Asks tenant token) ∨ s.Holds tenant call := by
  induction run generalizing c with
  | start => exact .inr ⟨c, found, working, own, Stage.isHolding_of_issued? issued⟩
  | @next events t u e run next ih =>
    have earlier {d : Caller} (found : t.callers[call]? = some d) (own : d.tenant.tenantId = tenant.tenantId)
        (working : d.isCancelled = false) (issued : d.stage.issued? = some token) :
        (∃ a ∈ events ++ [e], a.call = call ∧ a.Asks tenant token) ∨ s.Holds tenant call := by
      refine (ih found own working issued).imp_left ?_
      rintro ⟨a, member, asks⟩
      exact ⟨a, List.mem_append_left _ member, asks⟩
    have notEntry : ¬ c.stage.isEntry = true := by
      intro entry
      have holding := Stage.isHolding_of_issued? issued
      rw [Stage.not_isHolding_of_isEntry entry] at holding
      cases holding
    by_cases same : call = e.call
    · subst same
      cases next with
      | begin entry =>
        simp only [List.getElem?_concat_length, Option.some.injEq] at found
        subst found
        exact absurd entry notEntry
      | @step call d answer instant before working' =>
        rw [callers_advance_self before, Option.some.injEq] at found
        subst found
        rcases Stage.issued?_move answer d.tenant instant t.store issued with ⟨asking, answered⟩ | had
        · left
          refine ⟨_, List.mem_append_right _ (List.mem_singleton_self _), rfl, own, ?_⟩
          rw [answered, asking]
        · exact earlier before own (Caller.isAtWork_iff.mp working').1 had
      | cancel before =>
        have bound := (List.getElem?_eq_some_iff.mp before).1
        rw [List.getElem?_set_self bound, Option.some.injEq] at found
        subst found
        cases working
    · rcases next.caller_cases same found with before | entry
      · exact earlier before own working issued
      · exact absurd entry notEntry

end Traffic

/-- The calls of a schedule, none of them cancelled. -/
def Schedule.traffic {σ : Type} (s : Schedule σ) : Traffic := ⟨s.now, s.store, s.tasks.map fun t => ⟨t, false⟩⟩

/-- What the scheduler does next is an event. -/
theorem Schedule.advance_next {σ : Type} (issuer : Issuer σ) {s : Schedule σ} {before after : List Task} {t : Task}
    (tasks : s.tasks = before ++ t :: after) (working : t.isWorking = true) :
    ∃ e, s.traffic.Next e (s.advance issuer before t after).traffic := by
  have found : s.traffic.callers[before.length]? = some ⟨t, false⟩ := by simp [traffic, tasks]
  have step := @Traffic.Next.step s.traffic before.length ⟨t, false⟩ (issuer t.tenant s.issuer).1 (max s.now t.ready)
    found (by simpa [Caller.isAtWork] using working) (Nat.le_max_left ..) (Nat.le_max_right ..)
  have same : (s.advance issuer before t after).traffic =
      s.traffic.advance before.length ⟨t, false⟩ (issuer t.tenant s.issuer).1 (max s.now t.ready) := by
    obtain ⟨stage, store, pause⟩ := t.stage.step_eq_move t.tenant (max s.now t.ready) s.store issuer s.issuer
    simp only [traffic, advance, Traffic.advance, stage, store, pause, tasks]
    split <;> simp
  exact ⟨_, same ▸ step⟩

/-- Running a schedule is one order of its calls. -/
theorem Schedule.runWhile_run {σ : Type} (issuer : Issuer σ) (goesOn : Schedule σ → Task → Bool) (s : Schedule σ) :
    ∃ events, s.traffic.Run events (s.runWhile issuer goesOn).traffic := by
  fun_induction runWhile issuer goesOn s with
  | case1 s => exact ⟨[], .start⟩
  | case2 s before t after found goes ih =>
    obtain ⟨tasks, working⟩ := Task.next?_eq_some found
    obtain ⟨e, next⟩ := advance_next issuer tasks working
    obtain ⟨events, run⟩ := ih
    exact ⟨e :: events, .cons next run⟩
  | case3 s => exact ⟨[], .start⟩

end ReplyGateway.Token
