import Mathlib
import ReplyGateway.Proofs.Lists
import ReplyGateway.Proofs.Token.Prompt

namespace ReplyGateway.Token

namespace Traffic

/-- A task is a call of a traffic, at this place among the calls. -/
def Has (x : Traffic) (t : Task) (place : Nat) : Prop := x.callers[place]? = some ⟨t, false⟩

variable {x y : Traffic} {e : Event} {events : List Event} {call : Nat} {c : Caller} {tasks : List Task}
  {places : List Nat}

theorem Run.caller_of_over (run : x.Run events y) (found : x.callers[call]? = some c) (ended : c.isAtWork = false) :
    y.callers[call]? = some c := by
  induction run with
  | start => exact found
  | next _ next ih => exact next.caller_kept (next.ne_of_over ⟨c, ih, ended⟩).symm ih

/-- An event of another call leaves the tasks where they are. -/
theorem Next.has_kept (next : x.Next e y) (absent : e.call ∉ places) (has : List.Forall₂ x.Has tasks places) :
    List.Forall₂ y.Has tasks places := by
  induction has with
  | nil => exact .nil
  | cons here _ ih =>
    rw [List.mem_cons, not_or] at absent
    exact .cons (next.caller_kept (Ne.symm absent.1) here) (ih absent.2)

/-- A renewal that a step starts comes last. -/
theorem has_renewal (x : Traffic) (call : Nat) (c : Caller) (answer : Answer) (instant : Nat) :
    List.Forall₂ (x.advance call c answer instant).Has
      (if c.stage.startsRenewal c.tenant instant x.store then [⟨c.tenant, instant, .renewal⟩] else [])
      (if c.stage.startsRenewal c.tenant instant x.store then [x.callers.length] else []) := by
  split
  · rename_i starts
    exact .cons (by simp [Has, advance, starts]) .nil
  · exact .nil

end Traffic

/-- Every call of a schedule is a call of a traffic, at a place of its own. -/
structure Schedule.Follows {σ : Type} (s : Schedule σ) (x : Traffic) (places : List Nat) : Prop where
  now : x.now ≤ s.now
  store : x.store = s.store
  distinct : places.Nodup
  has : List.Forall₂ x.Has s.tasks places

namespace Schedule

variable {σ : Type} (issuer : Issuer σ) (tenant : Credentials) (stage : Stage) {s : Schedule σ} {x y : Traffic}
  {places : List Nat} {before after : List Task} {t : Task}

theorem Follows.lt_length (follows : s.Follows x places) {place : Nat} (member : place ∈ places) :
    place < x.callers.length := by
  obtain ⟨_, found⟩ := exists_of_forall₂ follows.has member
  exact (List.getElem?_eq_some_iff.mp found).1

/-- A call that begins stands first in the schedule and last in the traffic. -/
theorem Follows.begin (follows : s.Follows x places) (entry : stage.isEntry = true) :
    ∃ y, x.Next ⟨s.now, x.callers.length, tenant, .begins stage⟩ y ∧
      ({ s with tasks := ⟨tenant, s.now, stage⟩ :: s.tasks } : Schedule σ).Follows y (x.callers.length :: places) := by
  have next : x.Next ⟨s.now, x.callers.length, tenant, .begins stage⟩ _ := .begin entry follows.now
  have new : x.callers.length ∉ places := fun member => Nat.lt_irrefl _ (follows.lt_length member)
  refine ⟨_, next, Nat.le_refl _, follows.store, List.nodup_cons.mpr ⟨new, follows.distinct⟩, ?_⟩
  exact .cons (by simp [Traffic.Has]) (next.has_kept new follows.has)

/-- A step of the schedule is an event of the traffic, and a renewal that it starts gets a place of its own. -/
theorem Follows.advance (follows : s.Follows x places) (tasks : s.tasks = before ++ t :: after)
    (working : t.isWorking = true) :
    ∃ e y more, x.Next e y ∧ (s.advance issuer before t after).Follows y (places ++ more) := by
  obtain ⟨now, store, state, all⟩ := s
  obtain ⟨order, rfl, distinct, has⟩ := follows
  obtain rfl : all = before ++ t :: after := tasks
  obtain ⟨firsts, place, rests, rfl, befores, found, afters⟩ := forall₂_append_cons has
  have notElse : place ∉ firsts ∧ place ∉ rests := by
    rw [List.nodup_append, List.nodup_cons] at distinct
    exact ⟨fun member => distinct.2.2 place member place (List.mem_cons_self ..) rfl, distinct.2.1.1⟩
  have next := @Traffic.Next.step x place ⟨t, false⟩ (issuer t.tenant state).1 (max now t.ready) found
    (by simpa [Caller.isAtWork] using working) (Nat.le_trans order (Nat.le_max_left ..)) (Nat.le_max_right ..)
  have self := @Traffic.callers_advance_self x place ⟨t, false⟩ (issuer t.tenant state).1 (max now t.ready) found
  obtain ⟨stage, store, pause⟩ := t.stage.step_eq_move t.tenant (max now t.ready) x.store issuer state
  refine ⟨_, _, if t.stage.startsRenewal t.tenant (max now t.ready) x.store then [x.callers.length] else [], next,
    Nat.le_refl _, store.symm, ?_, ?_⟩
  · refine List.nodup_append.mpr ⟨distinct, by split <;> simp, ?_⟩
    rintro other member _ new rfl
    have bound : other < x.callers.length := by
      obtain ⟨_, there⟩ := exists_of_forall₂ has member
      exact (List.getElem?_eq_some_iff.mp there).1
    split at new
    · exact absurd bound (by simp [List.mem_singleton.mp new])
    · cases new
  · rw [List.append_assoc, List.cons_append]
    have later := List.rel_append (next.has_kept notElse.2 afters) (x.has_renewal place ⟨t, false⟩ _ _)
    refine List.rel_append (next.has_kept notElse.1 befores) (.cons ?_ later)
    simp only [Traffic.Has, self, stage, pause]

/-- A run of the schedule is a run of the traffic, step by step. -/
theorem Follows.runWhile (goesOn : Schedule σ → Task → Bool) (follows : s.Follows x places) :
    ∃ events y more, x.Run events y ∧ (s.runWhile issuer goesOn).Follows y (places ++ more) := by
  fun_induction Schedule.runWhile issuer goesOn s generalizing x places with
  | case1 s => exact ⟨[], x, [], .start, by simpa using follows⟩
  | case2 s before t after found goes ih =>
    obtain ⟨tasks, working⟩ := Task.next?_eq_some found
    obtain ⟨e, y, more, next, follows⟩ := follows.advance issuer tasks working
    obtain ⟨events, z, others, run, follows⟩ := ih follows
    exact ⟨e :: events, z, more ++ others, .cons next run, by rwa [← List.append_assoc]⟩
  | case3 s => exact ⟨[], x, [], .start, by simpa using follows⟩

/-- To forget the calls that are finished leaves the others at their places. -/
theorem Follows.tidy (follows : s.Follows x places) : ∃ kept, s.tidy.Follows x kept := by
  obtain ⟨kept, sub, has⟩ := exists_forall₂_filter Task.isWorking follows.has
  exact ⟨kept, follows.now, follows.store, follows.distinct.sublist sub, has⟩

theorem Follows.runUntil (instant : Nat) (follows : s.Follows x places) :
    ∃ events y kept, x.Run events y ∧ (s.runUntil issuer instant).Follows y kept := by
  obtain ⟨events, y, more, run, follows⟩ :=
    follows.runWhile issuer fun _ t => decide (t.ready ≤ instant)
  have later : ({ s.runWhile issuer fun _ t => decide (t.ready ≤ instant) with
      now := max (s.runWhile issuer fun _ t => decide (t.ready ≤ instant)).now instant } : Schedule σ).Follows y _ :=
    ⟨Nat.le_trans follows.now (Nat.le_max_left ..), follows.store, follows.distinct, follows.has⟩
  obtain ⟨kept, follows⟩ := later.tidy
  exact ⟨events, y, kept, run, follows⟩

/-- Running stops where nobody is at work, or where it must not go on. -/
theorem runWhile_stops (goesOn : Schedule σ → Task → Bool) (s : Schedule σ) :
    Task.next? (s.runWhile issuer goesOn).tasks = none ∨ ∃ t, goesOn (s.runWhile issuer goesOn) t = false := by
  fun_induction Schedule.runWhile issuer goesOn s with
  | case1 s none => exact .inl none
  | case2 s before t after found goes ih => exact ih
  | case3 s before t after found stops => exact .inr ⟨t, by simpa using stops⟩

/-- A call is finished in the end with what it gives, and the renewals go on. -/
theorem Follows.call (follows : s.Follows x places) (entry : stage.isEntry = true) :
    ∃ a events y kept, x.Next ⟨s.now, x.callers.length, tenant, .begins stage⟩ a ∧ a.Run events y ∧
      (s.call issuer tenant stage).1.Follows y kept ∧
      ∃ c, y.callers[x.callers.length]? = some c ∧ c.stage.outcome? = some (s.call issuer tenant stage).2 := by
  obtain ⟨a, next, begun⟩ := follows.begin tenant stage entry
  let isAnyWorking := fun (s : Schedule σ) => (s.tasks.take 1).any Task.isWorking
  let ended := ({ s with tasks := ⟨tenant, s.now, stage⟩ :: s.tasks } : Schedule σ).runWhile issuer fun s _ =>
    isAnyWorking s
  obtain ⟨events, m, more, run, ran⟩ : ∃ events y more, a.Run events y ∧ ended.Follows y _ :=
    begun.runWhile issuer fun s _ => isAnyWorking s
  -- the call stands first as long as it is there, and the schedule goes on as long as the first call is at work
  have stopped : isAnyWorking ended = false := by
    rcases runWhile_stops issuer (fun s _ => isAnyWorking s) _ with none | ⟨_, stops⟩
    · refine List.any_eq_false.mpr fun t member => ?_
      simp [Task.isWorking_of_next?_eq_none none t (List.mem_of_mem_take member)]
    · exact stops
  obtain ⟨t, rest, here, others, tasks⟩ : ∃ t rest, m.Has t x.callers.length ∧
      List.Forall₂ m.Has rest (places ++ more) ∧ ended.tasks = t :: rest := by
    have has := ran.has
    rw [List.cons_append] at has
    exact List.forall₂_cons_right_iff.mp has
  have finished : t.isWorking = false := by simpa [isAnyWorking, tasks] using stopped
  have rest' : ({ ended with tasks := ended.tasks.drop 1 } : Schedule σ).Follows m (places ++ more) := by
    refine ⟨ran.now, ran.store, ?_, ?_⟩
    · exact (List.nodup_cons.mp ran.distinct).2
    · simpa [tasks] using others
  obtain ⟨later, y, kept, run', follows'⟩ := rest'.runUntil issuer ended.now
  refine ⟨a, events ++ later, y, kept, next, run.append run', follows', _, run'.caller_of_over here ?_, ?_⟩
  · simp [Caller.isAtWork, finished]
  · show t.stage.outcome? = some (((ended.tasks.take 1).head?.bind fun t => t.stage.outcome?).getD (.ok none))
    rw [tasks]
    cases stage : t.stage <;> simp_all [Task.isWorking, Stage.isFinished, Stage.outcome?]

end Schedule
end ReplyGateway.Token
