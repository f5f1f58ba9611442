import Mathlib
import ReplyGateway.Proofs.Token.Replay

namespace ReplyGateway.Token

namespace Traffic

/-- What happens at an instant makes none of the prompt calls late. -/
def IsInTime (prompt : Nat → Prop) (s : Traffic) (instant : Nat) : Prop :=
  ∀ call c, prompt call → s.callers[call]? = some c → c.isAtWork = true → instant ≤ c.ready

/-- A run in which those calls that are prompt go on as soon as they may; if none is, any run. -/
inductive PromptRun (prompt : Nat → Prop) (s : Traffic) : List Event → Traffic → Prop
  | start : PromptRun prompt s [] s
  | next {events : List Event} {t u : Traffic} {e : Event} : PromptRun prompt s events t → t.Next e u →
      t.IsInTime prompt e.instant → PromptRun prompt s (events ++ [e]) u

variable {prompt : Nat → Prop} {s t u : Traffic} {e : Event} {events more : List Event} {call : Nat} {c : Caller}

theorem PromptRun.run (run : s.PromptRun prompt events t) : s.Run events t := by
  induction run with
  | start => exact .start
  | next _ next _ ih => exact ih.next next

theorem PromptRun.append (first : s.PromptRun prompt events t) (second : t.PromptRun prompt more u) :
    s.PromptRun prompt (events ++ more) u := by
  induction second with
  | start => simpa using first
  | next _ next inTime ih => simpa using ih.next next inTime

theorem PromptRun.last (run : s.PromptRun prompt (events ++ [e]) u) :
    ∃ t, s.PromptRun prompt events t ∧ t.Next e u ∧ t.IsInTime prompt e.instant := by
  generalize joined : events ++ [e] = all at run
  cases run with
  | start => simp at joined
  | next run next inTime =>
    obtain ⟨rfl, rfl⟩ := List.append_inj' joined rfl |>.imp id (List.cons.inj · |>.1)
    exact ⟨_, run, next, inTime⟩

theorem PromptRun.single (run : s.PromptRun prompt [e] u) : s.Next e u ∧ s.IsInTime prompt e.instant := by
  obtain ⟨t, empty, next, inTime⟩ := PromptRun.last (show s.PromptRun prompt ([] ++ [e]) u from run)
  obtain rfl := empty.run.eq_of_nil
  exact ⟨next, inTime⟩

theorem PromptRun.split (run : s.PromptRun prompt (events ++ more) u) :
    ∃ t, s.PromptRun prompt events t ∧ t.PromptRun prompt more u := by
  induction more using List.reverseRecOn generalizing u with
  | nil => exact ⟨u, by simpa using run, .start⟩
  | append_singleton more e ih =>
    rw [← List.append_assoc] at run
    obtain ⟨v, past, next, inTime⟩ := run.last
    obtain ⟨t, first, second⟩ := ih past
    exact ⟨t, first, second.next next inTime⟩

/-- What was before and after an event of a prompt run is prompt, too, and the event was in time. -/
theorem PromptRun.split_cons (run : s.PromptRun prompt (events ++ e :: more) u) :
    ∃ a b, s.PromptRun prompt events a ∧ a.Next e b ∧ b.PromptRun prompt more u ∧ a.IsInTime prompt e.instant := by
  rw [List.append_cons] at run
  obtain ⟨b, past, future⟩ := run.split
  obtain ⟨a, past, next, inTime⟩ := past.last
  exact ⟨a, b, past, next, future, inTime⟩

/-- A call goes on neither before it may nor, if it is prompt, after that. -/
theorem Next.instant_eq (next : s.Next e u) (found : s.callers[e.call]? = some c) (steps : ¬ e.Cancels)
    (inTime : e.instant ≤ c.ready) : e.instant = c.ready := by
  cases next with
  | begin => simp at found
  | step found' _ _ ready =>
    obtain rfl := Option.some.inj (found.symm.trans found')
    exact Nat.le_antisymm inTime ready
  | cancel => exact absurd rfl steps

theorem instant_of_choose? {instant : Nat} {choice : Choice} (chosen : s.choose? instant choice = some (e, u)) :
    e.instant = instant := by
  cases choice <;> simp only [choose?, Option.bind_eq_some_iff, Option.ite_none_right_eq_some, Option.some.injEq,
    Prod.mk.injEq] at chosen
  · obtain ⟨_, rfl, _⟩ := chosen; rfl
  · obtain ⟨_, _, _, rfl, _⟩ := chosen; rfl
  · obtain ⟨_, _, _, rfl, _⟩ := chosen; rfl

/-- Makes choices one after another, as `replay` does, as long as no call is late. -/
def replayPromptly (s : Traffic) : List (Nat × Choice) → Option (List Event × Traffic)
  | [] => some ([], s)
  | (instant, choice) :: rest =>
    if s.callers.all fun c => !c.isAtWork || decide (instant ≤ c.ready) then
      (s.choose? instant choice).bind fun (e, t) => (t.replayPromptly rest).map fun (events, u) => (e :: events, u)
    else none

/-- Choices that are made in time are a run in which all calls are prompt. -/
theorem replayPromptly_run {choices : List (Nat × Choice)} (played : s.replayPromptly choices = some (events, t)) :
    s.PromptRun (fun _ => True) events t := by
  induction choices generalizing s events with
  | nil =>
    obtain ⟨rfl, rfl⟩ := Prod.mk.inj (Option.some.inj played)
    exact .start
  | cons first rest ih =>
    simp only [replayPromptly, Option.ite_none_right_eq_some, Option.bind_eq_some_iff, Option.map_eq_some_iff] at played
    obtain ⟨inTime, ⟨e, m⟩, chosen, ⟨later, u⟩, more, same⟩ := played
    obtain ⟨rfl, rfl⟩ := Prod.mk.inj same
    refine (PromptRun.start.next (next_of_choose? chosen) fun call c _ there atWork => ?_).append (ih more)
    have early := List.all_eq_true.mp inTime c (List.mem_of_getElem? there)
    rw [instant_of_choose? chosen]
    simpa [atWork] using early

end Traffic

namespace Task

theorem isWorking_of_next?_eq_none {tasks : List Task} (none : next? tasks = none) :
    ∀ t ∈ tasks, t.isWorking = false := by
  induction tasks with
  | nil => simp
  | cons u rest ih =>
    unfold next? at none
    split at none
    · rename_i noneLater
      split at none
      · cases none
      · rename_i idle
        simpa [idle] using ih noneLater
    · split at none <;> cases none

/-- Nobody may go on before the call that goes on next. -/
theorem ready_le_of_next? {tasks before after : List Task} {t u : Task} (found : next? tasks = some (before, t, after))
    (member : u ∈ tasks) (working : u.isWorking = true) : t.ready ≤ u.ready := by
  induction tasks generalizing before t after with
  | nil => cases found
  | cons first rest ih =>
    unfold next? at found
    split at found
    · rename_i noneLater
      split at found
      · cases found
        rcases List.mem_cons.mp member with rfl | later
        · exact Nat.le_refl _
        · simp [isWorking_of_next?_eq_none noneLater u later] at working
      · cases found
    · rename_i foundLater
      split at found
      · rename_i goesFirst
        simp only [Bool.and_eq_true, decide_eq_true_eq] at goesFirst
        cases found
        rcases List.mem_cons.mp member with rfl | later
        · exact Nat.le_refl _
        · exact Nat.le_trans goesFirst.2 (ih foundLater later)
      · rename_i goesLater
        simp only [Bool.and_eq_true, decide_eq_true_eq, not_and, Nat.not_le] at goesLater
        cases found
        rcases List.mem_cons.mp member with rfl | later
        · exact Nat.le_of_lt (goesLater working)
        · exact ih foundLater later

end Task

namespace Schedule

variable {σ : Type}

/-- No call could have gone on before now. -/
def IsCurrent (s : Schedule σ) : Prop := ∀ t ∈ s.tasks, t.isWorking = true → s.now ≤ t.ready

variable {s : Schedule σ} {before after : List Task} {t : Task}

/-- The call that goes on next is the first that could, so that nobody is left behind. -/
theorem IsCurrent.advance (issuer : Issuer σ) (current : s.IsCurrent)
    (found : Task.next? s.tasks = some (before, t, after)) : (s.advance issuer before t after).IsCurrent := by
  obtain ⟨tasks, working⟩ := Task.next?_eq_some found
  have inTime : s.now ≤ t.ready := current t (tasks ▸ by simp) working
  have first {u : Task} (member : u ∈ s.tasks) (busy : u.isWorking = true) : max s.now t.ready ≤ u.ready := by
    rw [Nat.max_eq_right inTime]
    exact Task.ready_le_of_next? found member busy
  intro u member busy
  simp only [Schedule.advance, List.mem_append, List.mem_cons] at member ⊢
  rcases member with old | rfl | old | new
  · exact first (tasks ▸ List.mem_append_left _ old) busy
  · exact Nat.le_add_right ..
  · exact first (tasks ▸ by simp [old]) busy
  · split at new
    · rw [List.mem_singleton.mp new]
    · cases new

/-- What the scheduler does is prompt for all calls. -/
theorem runWhile_prompt (issuer : Issuer σ) (goesOn : Schedule σ → Task → Bool) (s : Schedule σ)
    (current : s.IsCurrent) :
    (∃ events, s.traffic.PromptRun (fun _ => True) events (s.runWhile issuer goesOn).traffic) ∧
      (s.runWhile issuer goesOn).IsCurrent := by
  fun_induction runWhile issuer goesOn s with
  | case1 s => exact ⟨⟨[], .start⟩, current⟩
  | case2 s before t after found goes ih =>
    obtain ⟨tasks, working⟩ := Task.next?_eq_some found
    obtain ⟨e, next⟩ := advance_next issuer tasks working
    obtain ⟨⟨events, run⟩, later⟩ := ih (current.advance issuer found)
    have instant : e.instant = max s.now t.ready := next.now_eq.symm
    have inTime : s.now ≤ t.ready := current t (tasks ▸ by simp) working
    refine ⟨⟨e :: events, (Traffic.PromptRun.start.next next fun call c _ there atWork => ?_).append run⟩, later⟩
    obtain ⟨u, member, rfl⟩ := List.mem_map.mp (List.mem_of_getElem? there)
    rw [instant, Nat.max_eq_right inTime]
    exact Task.ready_le_of_next? found member (by simpa [Caller.isAtWork] using atWork)
  | case3 s => exact ⟨⟨[], .start⟩, current⟩

end Schedule
end ReplyGateway.Token
