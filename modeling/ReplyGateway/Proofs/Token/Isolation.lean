import Mathlib
import ReplyGateway.Proofs.Token.Replay

namespace ReplyGateway.Token

section Places

variable {α : Type} {l : List α} {i : Nat} {x y : α} {p : α → Bool}

theorem exists_append_of_getElem? (found : l[i]? = some x) :
    ∃ before after, l = before ++ x :: after ∧ before.length = i := by
  obtain ⟨bound, rfl⟩ := List.getElem?_eq_some_iff.mp found
  refine ⟨l.take i, l.drop (i + 1), ?_, List.length_take_of_le bound.le⟩
  rw [← List.drop_eq_getElem_cons bound, List.take_append_drop]

/-- Elements that are kept stand behind those before them that are kept. -/
theorem getElem?_filter_of_pos (found : l[i]? = some x) (kept : p x = true) :
    (l.filter p)[((l.take i).filter p).length]? = some x := by
  obtain ⟨before, after, rfl, rfl⟩ := exists_append_of_getElem? found
  simp [kept]

theorem filter_set_of_pos (found : l[i]? = some x) (old : p x = true) (new : p y = true) :
    (l.set i y).filter p = (l.filter p).set ((l.take i).filter p).length y := by
  obtain ⟨before, after, rfl, rfl⟩ := exists_append_of_getElem? found
  simp [old, new]

theorem map_set_of_eq {β : Type} {f : α → β} (found : l[i]? = some x) (same : f y = f x) :
    (l.set i y).map f = l.map f := by
  obtain ⟨before, after, rfl, rfl⟩ := exists_append_of_getElem? found
  simp [same]

theorem filter_set_of_neg (found : l[i]? = some x) (old : p x = false) (new : p y = false) :
    (l.set i y).filter p = l.filter p := by
  obtain ⟨before, after, rfl, rfl⟩ := exists_append_of_getElem? found
  simp [old, new]

end Places

/-- The calls that are not of a tenant. -/
def Caller.isOther (tenant : Credentials) (c : Caller) : Bool := decide (c.tenant.tenantId ≠ tenant.tenantId)

/-- The place that a call has if those of a tenant are left out. -/
def placeWithout (tenant : Credentials) (ids : List String) (call : Nat) : Nat :=
  ((ids.take call).filter fun id => decide (id ≠ tenant.tenantId)).length

namespace Choice

/-- The tenant of a choice, from those of the calls. -/
def tenantId? (ids : List String) : Choice → Option String
  | begin tenant _ => some tenant.tenantId
  | step call _ | cancel call => ids[call]?

def renumber (place : Nat → Nat) : Choice → Choice
  | begin tenant stage => begin tenant stage
  | step call answer => step (place call) answer
  | cancel call => cancel (place call)

end Choice

/-- Choices without those for a tenant. -/
def choicesWithout (tenant : Credentials) (ids : List String) (choices : List (Nat × Choice)) : List (Nat × Choice) :=
  (choices.filter fun choice => decide (choice.2.tenantId? ids ≠ some tenant.tenantId)).map fun choice =>
    (choice.1, choice.2.renumber (placeWithout tenant ids))

def Event.renumber (place : Nat → Nat) (e : Event) : Event := { e with call := place e.call }

/-- Events without those of a tenant. -/
def eventsWithout (tenant : Credentials) (ids : List String) (events : List Event) : List Event :=
  (events.filter fun e => decide (e.tenant.tenantId ≠ tenant.tenantId)).map (Event.renumber (placeWithout tenant ids))

namespace Traffic

/-- The tenants of the calls, in the order in which they began. -/
def tenantIds (s : Traffic) : List String := s.callers.map fun c => c.tenant.tenantId

/-- The same without the calls for a tenant. -/
def without (tenant : Credentials) (s : Traffic) : Traffic :=
  { s with callers := s.callers.filter (Caller.isOther tenant) }

/-- What there is besides the calls and the keys of a tenant is the same. -/
structure Apart (tenant : Credentials) (s s' : Traffic) : Prop where
  now_le : s'.now ≤ s.now
  callers : s'.callers = s.callers.filter (Caller.isOther tenant)
  entries : ∀ key, tenant.accessTokenKey ≠ key → tenant.lockKey ≠ key →
    s'.store.entries.get? key = s.store.entries.get? key

variable {s s' t u : Traffic} {e : Event} {events : List Event} {tenant : Credentials} {choices : List (Nat × Choice)}
  {choice : Choice} {instant call : Nat} {c : Caller} {ids : List String}

theorem apart_without (tenant : Credentials) (s : Traffic) : Apart tenant s (s.without tenant) :=
  ⟨Nat.le_refl _, rfl, fun _ _ _ => rfl⟩

theorem Next.tenantIds_kept (next : s.Next e u) : s.tenantIds <+: u.tenantIds := by
  cases next with
  | begin => simp [tenantIds]
  | step found =>
    simp only [tenantIds, advance, List.map_append]
    rw [map_set_of_eq (y := ⟨⟨_, _, _⟩, false⟩) found rfl]
    exact List.prefix_append ..
  | cancel found =>
    simp only [tenantIds]
    rw [map_set_of_eq (y := ⟨_, true⟩) found rfl]

theorem Run.tenantIds_kept (run : s.Run events t) : s.tenantIds <+: t.tenantIds := by
  induction run with
  | start => exact List.prefix_refl _
  | next _ next ih => exact ih.trans next.tenantIds_kept

/-- The new place of a call is the number of calls before it that are kept. -/
theorem placeWithout_eq (pre : s.tenantIds <+: ids) (bound : call ≤ s.callers.length) :
    placeWithout tenant ids call = ((s.callers.take call).filter (Caller.isOther tenant)).length := by
  obtain ⟨more, rfl⟩ := pre
  rw [placeWithout, List.take_append_of_le_length (by simpa [tenantIds] using bound), tenantIds, ← List.map_take,
    List.filter_map, List.length_map]
  rfl

theorem getElem?_tenantIds (pre : s.tenantIds <+: ids) (found : s.callers[call]? = some c) :
    ids[call]? = some c.tenant.tenantId := by
  obtain ⟨more, rfl⟩ := pre
  have bound := (List.getElem?_eq_some_iff.mp found).1
  rw [List.getElem?_append_left (by simpa [tenantIds] using bound), tenantIds, List.getElem?_map, found]
  rfl

/-- An event of the tenant is as if there were none. -/
theorem Apart.of_own (apart : Apart tenant s s') (next : s.Next e u) (own : e.tenant.tenantId = tenant.tenantId) :
    Apart tenant u s' := by
  have now_le : s'.now ≤ u.now := apart.now_le.trans (next.now_eq ▸ next.now_le)
  have left {c : Caller} (same : c.tenant.tenantId = tenant.tenantId) : c.isOther tenant = false := by
    simp [Caller.isOther, same]
  cases next with
  | begin =>
    refine ⟨now_le, ?_, apart.entries⟩
    dsimp only at own
    simp [apart.callers, Caller.isOther, own]
  | @step call c answer instant found =>
    refine ⟨now_le, ?_, fun key token lock => ?_⟩
    · simp only [advance]
      rw [List.filter_append, filter_set_of_neg (y := ⟨⟨c.tenant, _, _⟩, false⟩) found (left own) (left own),
        apart.callers]
      dsimp only at own
      split <;> simp [Caller.isOther, own]
    · have kept := Stage.entries_move_of_ne answer c.tenant instant s.store c.stage
        (Credentials.accessTokenKey_inj.mpr own ▸ token) (Credentials.lockKey_inj.mpr own ▸ lock)
      exact (apart.entries key token lock).trans kept.symm
  | @cancel call c instant found =>
    refine ⟨now_le, ?_, apart.entries⟩
    rw [filter_set_of_neg (y := ⟨c.toTask, true⟩) found (left own) (left own), apart.callers]

/-- What a step of another tenant reads is the same. -/
theorem Apart.move_congr (apart : Apart tenant s s') (other : c.tenant.tenantId ≠ tenant.tenantId) (answer : Answer)
    (instant : Nat) :
    (c.stage.move answer c.tenant instant s'.store).stage = (c.stage.move answer c.tenant instant s.store).stage ∧
      (c.stage.move answer c.tenant instant s'.store).pause = (c.stage.move answer c.tenant instant s.store).pause ∧
      c.stage.startsRenewal c.tenant instant s'.store = c.stage.startsRenewal c.tenant instant s.store ∧
      ∀ key, s'.store.entries.get? key = s.store.entries.get? key →
        (c.stage.move answer c.tenant instant s'.store).store.entries.get? key =
          (c.stage.move answer c.tenant instant s.store).store.entries.get? key := by
  refine Stage.move_congr answer c.tenant instant s.store (apart.entries _ ?_ ?_) (apart.entries _ ?_ ?_) c.stage
  · exact fun same => other (Credentials.accessTokenKey_inj.mp same).symm
  · exact (Credentials.accessTokenKey_ne_lockKey _ _).symm
  · exact Credentials.accessTokenKey_ne_lockKey _ _
  · exact fun same => other (Credentials.lockKey_inj.mp same).symm

/-- A choice for another tenant does the same on both sides. -/
theorem Apart.choose?_of_other (apart : Apart tenant s s') (pre : s.tenantIds <+: ids)
    (chosen : s.choose? instant choice = some (e, u)) (other : e.tenant.tenantId ≠ tenant.tenantId) :
    ∃ u', s'.choose? instant (choice.renumber (placeWithout tenant ids)) =
        some (e.renumber (placeWithout tenant ids), u') ∧ Apart tenant u u' := by
  have stays {c : Caller} (others : c.tenant.tenantId ≠ tenant.tenantId) : c.isOther tenant = true := by
    simpa [Caller.isOther] using others
  have place {call : Nat} {c : Caller} (found : s.callers[call]? = some c) :
      placeWithout tenant ids call = ((s.callers.take call).filter (Caller.isOther tenant)).length :=
    placeWithout_eq pre (List.getElem?_eq_some_iff.mp found).1.le
  have found' {call : Nat} {c : Caller} (found : s.callers[call]? = some c)
      (others : c.tenant.tenantId ≠ tenant.tenantId) :
      s'.callers[placeWithout tenant ids call]? = some c := by
    rw [apart.callers, place found]
    exact getElem?_filter_of_pos found (stays others)
  cases choice with
  | begin tenant' stage =>
    obtain ⟨⟨entry, now⟩, rfl, rfl⟩ := choose?_begin_iff.mp chosen
    refine ⟨⟨instant, s'.store, s'.callers ++ [⟨⟨tenant', instant, stage⟩, false⟩]⟩, ?_, Nat.le_refl _, ?_,
      apart.entries⟩
    · refine choose?_begin_iff.mpr ⟨⟨entry, apart.now_le.trans now⟩, ?_, rfl⟩
      rw [Event.renumber, placeWithout_eq pre (Nat.le_refl _), List.take_length, apart.callers]
    · rw [List.filter_append, List.filter_cons_of_pos (stays other), List.filter_nil, apart.callers]
  | step call answer =>
    obtain ⟨c, found, ⟨working, now, ready⟩, rfl, rfl⟩ := choose?_step_iff.mp chosen
    obtain ⟨stage, pause, renewal, entries⟩ := apart.move_congr other answer instant
    refine ⟨s'.advance (placeWithout tenant ids call) c answer instant, ?_, Nat.le_refl _, ?_, fun key token lock => ?_⟩
    · refine choose?_step_iff.mpr ⟨c, found' found other, ⟨working, apart.now_le.trans now, ready⟩, ?_, rfl⟩
      rw [stage, Event.renumber]
    · simp only [advance]
      rw [List.filter_append, filter_set_of_pos (y := ⟨⟨c.tenant, _, _⟩, false⟩) found (stays other) (stays other),
        ← place found, ← apart.callers, stage, pause, renewal]
      dsimp only at other
      split <;> simp [Caller.isOther, other]
    · exact entries key (apart.entries key token lock)
  | cancel call =>
    obtain ⟨c, found, ⟨working, now⟩, rfl, rfl⟩ := choose?_cancel_iff.mp chosen
    refine ⟨⟨instant, s'.store, s'.callers.set (placeWithout tenant ids call) { c with isCancelled := true }⟩, ?_,
      Nat.le_refl _, ?_, apart.entries⟩
    · exact choose?_cancel_iff.mpr ⟨c, found' found other, ⟨working, apart.now_le.trans now⟩, rfl, rfl⟩
    · rw [filter_set_of_pos (y := ⟨c.toTask, true⟩) found (stays other) (stays other), ← place found, ← apart.callers]

theorem tenantId?_of_choose? (chosen : s.choose? instant choice = some (e, u)) (pre : s.tenantIds <+: ids) :
    choice.tenantId? ids = some e.tenant.tenantId := by
  cases choice with
  | begin tenant stage =>
    obtain ⟨_, rfl, _⟩ := choose?_begin_iff.mp chosen
    rfl
  | step call answer =>
    obtain ⟨c, found, _, rfl, _⟩ := choose?_step_iff.mp chosen
    exact getElem?_tenantIds pre found
  | cancel call =>
    obtain ⟨c, found, _, rfl, _⟩ := choose?_cancel_iff.mp chosen
    exact getElem?_tenantIds pre found

/-- Without the choices for a tenant, the others make what they make with them. -/
theorem Apart.replay (apart : Apart tenant s s') (played : s.replay choices = some (events, t))
    (pre : t.tenantIds <+: ids) :
    ∃ t', s'.replay (choicesWithout tenant ids choices) = some (eventsWithout tenant ids events, t') ∧
      Apart tenant t t' := by
  induction choices generalizing s s' events with
  | nil =>
    obtain ⟨rfl, rfl⟩ := Prod.mk.inj (Option.some.inj played)
    exact ⟨s', rfl, apart⟩
  | cons first rest ih =>
    obtain ⟨instant, choice⟩ := first
    simp only [Traffic.replay, Option.bind_eq_some_iff, Option.map_eq_some_iff] at played
    obtain ⟨⟨e, u⟩, chosen, ⟨later, _⟩, more, same⟩ := played
    obtain ⟨rfl, rfl⟩ := Prod.mk.inj same
    have next := next_of_choose? chosen
    -- places are counted among all calls of the run, of which those that have begun are the first
    have began : u.tenantIds <+: ids := (replay_run more).tenantIds_kept.trans pre
    have before : s.tenantIds <+: ids := next.tenantIds_kept.trans began
    have whose := tenantId?_of_choose? chosen before
    by_cases own : e.tenant.tenantId = tenant.tenantId
    · obtain ⟨t', replayed, after⟩ := ih (apart.of_own next own) more
      refine ⟨t', ?_, after⟩
      rw [choicesWithout, List.filter_cons_of_neg (by simp [whose, own]), eventsWithout,
        List.filter_cons_of_neg (by simp [own])]
      exact replayed
    · obtain ⟨u', chosen', kept⟩ := apart.choose?_of_other before chosen own
      obtain ⟨t', replayed, after⟩ := ih kept more
      refine ⟨t', ?_, after⟩
      rw [choicesWithout, List.filter_cons_of_pos (by simp [whose, own]), eventsWithout,
        List.filter_cons_of_pos (by simp [own]), List.map_cons, List.map_cons, Traffic.replay, chosen',
        Option.bind_some]
      exact congrArg (Option.map _) replayed

/-- What the calls for a tenant do, and when; also what the issuer answers them, and what they end with. -/
def deeds (tenant : Credentials) (events : List Event) : List (Nat × Deed) :=
  (events.filter fun e => decide (e.tenant.tenantId = tenant.tenantId)).map fun e => (e.instant, e.deed)

/-- Leaving out one tenant leaves what is done for the others. -/
theorem deeds_eventsWithout {a b : Credentials} (different : a.tenantId ≠ b.tenantId) (ids : List String)
    (events : List Event) : deeds a (eventsWithout b ids events) = deeds a events := by
  induction events with
  | nil => rfl
  | cons e later ih =>
    by_cases own : e.tenant.tenantId = a.tenantId
    · simp_all [deeds, eventsWithout, Event.renumber]
    · by_cases other : e.tenant.tenantId = b.tenantId <;> simp_all [deeds, eventsWithout, Event.renumber]

/-- The keys of two tenants are four different ones. Whatever is done for one of them, all others, by whatever order
of events, do, are told and leave in the store what they do without it, at the same instants and with the same answers
of the issuer. -/
theorem Run.isolated (run : s.Run events t) {a b : Credentials} (different : a.tenantId ≠ b.tenantId) :
    [a.accessTokenKey, a.lockKey, b.accessTokenKey, b.lockKey].Nodup ∧
      (∃ choices, s.replay choices = some (events, t)) ∧
      ∀ choices, s.replay choices = some (events, t) → ∃ t',
        (s.without b).replay (choicesWithout b t.tenantIds choices) = some (eventsWithout b t.tenantIds events, t') ∧
          deeds a (eventsWithout b t.tenantIds events) = deeds a events ∧
          t'.callers = t.callers.filter (Caller.isOther b) ∧
          t'.store.entries.get? a.accessTokenKey = t.store.entries.get? a.accessTokenKey ∧
          t'.store.entries.get? a.lockKey = t.store.entries.get? a.lockKey := by
  have tokens : b.accessTokenKey ≠ a.accessTokenKey := fun same =>
    different (Credentials.accessTokenKey_inj.mp same).symm
  have locks : b.lockKey ≠ a.lockKey := fun same => different (Credentials.lockKey_inj.mp same).symm
  refine ⟨?_, run.exists_replay, fun choices played => ?_⟩
  · have apart := Credentials.accessTokenKey_ne_lockKey
    simp [apart, (apart b a).symm, tokens.symm, locks.symm]
  · obtain ⟨t', replayed, apart⟩ := (apart_without b s).replay played (List.prefix_refl _)
    refine ⟨t', replayed, deeds_eventsWithout different .., apart.callers, ?_, ?_⟩
    · exact apart.entries _ tokens (Credentials.accessTokenKey_ne_lockKey _ _).symm
    · exact apart.entries _ (Credentials.accessTokenKey_ne_lockKey _ _) locks

namespace Suffixed

def plain : Credentials := ⟨"wx1", "", "", "", ""⟩

/-- A tenant whose name is the key of another one's token. -/
def nested : Credentials := ⟨"wx1:access_token", "", "", "", ""⟩

def short : Answer := ⟨5, .ok ⟨"plain", 1000⟩⟩

def long : Answer := ⟨3, .ok ⟨"nested", 7200000⟩⟩

/-- Both get tokens side by side; that of the first is renewed beside the call that has found it. -/
def sideBySide : List (Nat × Choice) :=
  [(0, .begin plain .reading), (0, .begin nested .reading), (0, .step 1 long), (0, .step 0 short), (0, .step 0 short),
    (0, .step 1 long), (0, .step 1 long), (0, .step 0 short), (3, .step 1 long), (5, .step 0 short), (5, .step 0 short),
    (6, .step 1 long), (6, .step 0 short), (7, .begin plain .reading), (7, .step 2 short), (8, .cancel 1),
    (8, .step 2 short), (9, .step 3 short)]

end Suffixed

/-- The key of the token of one tenant is the name of the other one. -/
theorem Run.isolated_of_suffixed : ∃ events t t', (⟨0, .empty, []⟩ : Traffic).Run events t ∧
    t.callers.length = 4 ∧ t'.callers.length = 3 ∧
    (⟨0, .empty, []⟩ : Traffic).replay (choicesWithout Suffixed.nested t.tenantIds Suffixed.sideBySide) =
      some (eventsWithout Suffixed.nested t.tenantIds events, t') ∧
    deeds Suffixed.plain (eventsWithout Suffixed.nested t.tenantIds events) = deeds Suffixed.plain events := by
  have played : ∃ events t, (⟨0, .empty, []⟩ : Traffic).replay Suffixed.sideBySide = some (events, t) ∧
      t.callers.length = 4 ∧ (t.callers.filter (Caller.isOther Suffixed.nested)).length = 3 := ⟨_, _, rfl, rfl, rfl⟩
  obtain ⟨events, t, played, calls, others⟩ := played
  have different : Suffixed.plain.tenantId ≠ Suffixed.nested.tenantId := by decide
  obtain ⟨_, _, isolated⟩ := (replay_run played).isolated different
  obtain ⟨t', replayed, deeds, callers, _⟩ := isolated Suffixed.sideBySide played
  exact ⟨events, t, t', replay_run played, calls, callers ▸ others, replayed, deeds⟩

end Traffic
end ReplyGateway.Token
