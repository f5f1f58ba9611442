import Mathlib
import ReplyGateway.Proofs.Token.Traffic

namespace ReplyGateway.Token

/-- What happens next: a call begins, or goes on, with this answer if it asks the issuer, or is cancelled. -/
inductive Choice
  | begin (tenant : Credentials) (stage : Stage)
  | step (call : Nat) (answer : Answer)
  | cancel (call : Nat)

namespace Traffic

/-- Makes a choice at an instant, and tells what happened, if the choice is possible. -/
def choose? (s : Traffic) (instant : Nat) : Choice → Option (Event × Traffic)
  | .begin tenant stage =>
    if stage.isEntry = true ∧ s.now ≤ instant then
      some (⟨instant, s.callers.length, tenant, .begins stage⟩,
        ⟨instant, s.store, s.callers ++ [⟨⟨tenant, instant, stage⟩, false⟩]⟩)
    else none
  | .step call answer =>
    s.callers[call]?.bind fun c =>
      if c.isAtWork = true ∧ s.now ≤ instant ∧ c.ready ≤ instant then
        some (⟨instant, call, c.tenant, .steps c.stage (c.stage.move answer c.tenant instant s.store).stage⟩,
          s.advance call c answer instant)
      else none
  | .cancel call =>
    s.callers[call]?.bind fun c =>
      if c.isAtWork = true ∧ s.now ≤ instant then
        some (⟨instant, call, c.tenant, .cancelled⟩,
          ⟨instant, s.store, s.callers.set call { c with isCancelled := true }⟩)
      else none

section

variable {s u : Traffic} {e : Event} {instant call : Nat} {tenant : Credentials} {stage : Stage} {answer : Answer}
  {choice : Choice}

theorem choose?_begin_iff : s.choose? instant (.begin tenant stage) = some (e, u) ↔
    (stage.isEntry = true ∧ s.now ≤ instant) ∧ ⟨instant, s.callers.length, tenant, .begins stage⟩ = e ∧
      ⟨instant, s.store, s.callers ++ [⟨⟨tenant, instant, stage⟩, false⟩]⟩ = u := by
  simp only [choose?, Option.ite_none_right_eq_some, Option.some.injEq, Prod.mk.injEq]

theorem choose?_step_iff : s.choose? instant (.step call answer) = some (e, u) ↔
    ∃ c, s.callers[call]? = some c ∧ (c.isAtWork = true ∧ s.now ≤ instant ∧ c.ready ≤ instant) ∧
      ⟨instant, call, c.tenant, .steps c.stage (c.stage.move answer c.tenant instant s.store).stage⟩ = e ∧
        s.advance call c answer instant = u := by
  simp only [choose?, Option.bind_eq_some_iff, Option.ite_none_right_eq_some, Option.some.injEq, Prod.mk.injEq]

theorem choose?_cancel_iff : s.choose? instant (.cancel call) = some (e, u) ↔
    ∃ c, s.callers[call]? = some c ∧ (c.isAtWork = true ∧ s.now ≤ instant) ∧
      ⟨instant, call, c.tenant, .cancelled⟩ = e ∧
        ⟨instant, s.store, s.callers.set call { c with isCancelled := true }⟩ = u := by
  simp only [choose?, Option.bind_eq_some_iff, Option.ite_none_right_eq_some, Option.some.injEq, Prod.mk.injEq]

theorem next_of_choose? (chosen : s.choose? instant choice = some (e, u)) : s.Next e u := by
  cases choice with
  | begin tenant stage =>
    obtain ⟨⟨entry, now⟩, rfl, rfl⟩ := choose?_begin_iff.mp chosen
    exact .begin entry now
  | step call answer =>
    obtain ⟨c, found, ⟨working, now, ready⟩, rfl, rfl⟩ := choose?_step_iff.mp chosen
    exact .step found working now ready
  | cancel call =>
    obtain ⟨c, found, ⟨working, now⟩, rfl, rfl⟩ := choose?_cancel_iff.mp chosen
    exact .cancel found working now

theorem Next.exists_choose? (next : s.Next e u) : ∃ instant choice, s.choose? instant choice = some (e, u) := by
  cases next with
  | begin entry now => exact ⟨_, .begin _ _, choose?_begin_iff.mpr ⟨⟨entry, now⟩, rfl, rfl⟩⟩
  | @step call c answer instant found working now ready =>
    exact ⟨_, .step call answer, choose?_step_iff.mpr ⟨c, found, ⟨working, now, ready⟩, rfl, rfl⟩⟩
  | @cancel call c instant found working now =>
    exact ⟨_, .cancel call, choose?_cancel_iff.mpr ⟨c, found, ⟨working, now⟩, rfl, rfl⟩⟩

end

/-- Makes choices at their instants one after another, and tells what happened, as long as they are possible. -/
def replay (s : Traffic) : List (Nat × Choice) → Option (List Event × Traffic)
  | [] => some ([], s)
  | (instant, choice) :: rest =>
    (s.choose? instant choice).bind fun (e, t) => (t.replay rest).map fun (events, u) => (e :: events, u)

/-- Choices that are possible one after another make a run, so that a run can be found by computing. -/
theorem replay_run {s t : Traffic} {choices : List (Nat × Choice)} {events : List Event}
    (played : s.replay choices = some (events, t)) : s.Run events t := by
  induction choices generalizing s events with
  | nil =>
    obtain ⟨rfl, rfl⟩ := Prod.mk.inj (Option.some.inj played)
    exact .start
  | cons first rest ih =>
    simp only [replay, Option.bind_eq_some_iff, Option.map_eq_some_iff] at played
    obtain ⟨⟨e, m⟩, chosen, ⟨later, u⟩, more, same⟩ := played
    obtain ⟨rfl, rfl⟩ := Prod.mk.inj same
    exact .cons (next_of_choose? chosen) (ih more)

theorem replay_concat {s t u : Traffic} {choices : List (Nat × Choice)} {events : List Event} {instant : Nat}
    {choice : Choice} {e : Event} (played : s.replay choices = some (events, t))
    (chosen : t.choose? instant choice = some (e, u)) :
    s.replay (choices ++ [(instant, choice)]) = some (events ++ [e], u) := by
  induction choices generalizing s events with
  | nil =>
    obtain ⟨rfl, rfl⟩ := Prod.mk.inj (Option.some.inj played)
    simp [replay, chosen]
  | cons first rest ih =>
    simp only [replay, Option.bind_eq_some_iff, Option.map_eq_some_iff] at played
    obtain ⟨⟨e', m⟩, chosen', ⟨later, u'⟩, more, same⟩ := played
    obtain ⟨rfl, rfl⟩ := Prod.mk.inj same
    simp [replay, chosen', ih more]

/-- Every run is made by choices. -/
theorem Run.exists_replay {s t : Traffic} {events : List Event} (run : s.Run events t) :
    ∃ choices, s.replay choices = some (events, t) := by
  induction run with
  | start => exact ⟨[], rfl⟩
  | next _ next ih =>
    obtain ⟨choices, played⟩ := ih
    obtain ⟨instant, choice, chosen⟩ := next.exists_choose?
    exact ⟨_, replay_concat played chosen⟩

end Traffic
end ReplyGateway.Token
