import Mathlib
import ReplyGateway.Proofs.Token.LockOwnership
import ReplyGateway.Proofs.Token.Look

namespace ReplyGateway.Token

namespace Stage

variable (answer : Answer) (tenant : Credentials) (now : Nat) (store : KeyValue)

/-- Whether a call may come to ask the issuer. -/
def mayAsk : Stage → Bool
  | reading | dropping | locking _ | asking => true
  | _ => false

theorem mayAsk_move {s : Stage} (ended : s.mayAsk = false) : (s.move answer tenant now store).stage.mayAsk = false := by
  cases s with
  | awaiting result => cases result <;> rfl
  | polling => simp only [move, step]; split <;> rfl
  | measuring => rfl
  | storing => rfl
  | releasing => rfl
  | finished => rfl
  | _ => cases ended

end Stage

namespace Event

variable {tenant : Credentials} {e : Event}

def Tries (tenant : Credentials) (e : Event) : Prop :=
  e.tenant.tenantId = tenant.tenantId ∧ ∃ waits after, e.deed = .steps (.locking waits) after

end Event

namespace Traffic

section

variable {start s t u : Traffic} {e ask win : Event} {events before middle after : List Event} {tenant : Credentials}
  {call : Nat} {calls : List Nat} {c d : Caller}

/-- What no step of a call changes stays as it is. -/
theorem Next.caller_keeps {p : Credentials → Stage → Prop}
    (kept : ∀ answer tenant now store s, p tenant s → p tenant (Stage.move answer tenant now store s).stage)
    (next : s.Next e u) (found : s.callers[call]? = some c) (has : p c.tenant c.stage) :
    ∃ d, u.callers[call]? = some d ∧ p d.tenant d.stage := by
  by_cases own : call = e.call
  · subst own
    cases next with
    | begin => simp at found
    | step found' =>
      obtain rfl := Option.some.inj (found.symm.trans found')
      exact ⟨_, callers_advance_self found, kept _ _ _ _ _ has⟩
    | cancel found' =>
      obtain rfl := Option.some.inj (found.symm.trans found')
      have bound := (List.getElem?_eq_some_iff.mp found).1
      exact ⟨_, List.getElem?_set_self bound, has⟩
  · exact ⟨c, next.caller_kept own found, has⟩

theorem Run.caller_keeps {p : Credentials → Stage → Prop}
    (kept : ∀ answer tenant now store s, p tenant s → p tenant (Stage.move answer tenant now store s).stage)
    (run : s.Run events u) (found : s.callers[call]? = some c) (has : p c.tenant c.stage) :
    ∃ d, u.callers[call]? = some d ∧ p d.tenant d.stage := by
  induction run with
  | start => exact ⟨c, found, has⟩
  | next _ next ih =>
    obtain ⟨d, found, has⟩ := ih
    exact next.caller_keeps kept found has

theorem Run.tenant_of_call (run : s.Run events u) (found : s.callers[call]? = some c) (member : e ∈ events)
    (own : e.call = call) : e.tenant = c.tenant := by
  subst own
  obtain ⟨first, rest, a, b, rfl, past, next, _⟩ := run.around member
  obtain ⟨d, found', same⟩ := past.caller_keeps (p := fun tenant _ => tenant = c.tenant) (fun _ _ _ _ _ => id) found rfl
  exact (next.tenant_of_call found').trans same

theorem Run.tenant_of_wins (next : s.Next win t) (wins : win.Wins tenant) (run : t.Run events u) (member : e ∈ events)
    (same : e.call = win.call) : e.tenant.tenantId = tenant.tenantId := by
  obtain ⟨own, waits, deed⟩ := wins
  obtain ⟨_, _, c, _, _, _, _, found, ofTenant, _⟩ := next.caller_of_steps deed
  rw [run.tenant_of_call found member same, ofTenant, own]

theorem Run.mayAsk_kept (run : s.Run events u) (found : s.callers[call]? = some c) (ended : c.stage.mayAsk = false) :
    ∃ d, u.callers[call]? = some d ∧ d.stage.mayAsk = false :=
  run.caller_keeps (p := fun _ stage => stage.mayAsk = false) (fun _ _ _ _ _ => Stage.mayAsk_move _ _ _ _) found ended

end

namespace Overtaken

def tenant : Credentials := ⟨"wx1", "", "", "", ""⟩

def token (value : String) : Issued := ⟨value, 600000⟩

def opening : List Event :=
  [⟨0, 0, tenant, .begins .reading⟩, ⟨0, 1, tenant, .begins .reading⟩, ⟨0, 0, tenant, .steps .reading (.locking true)⟩]

def win : Event := ⟨0, 0, tenant, .steps (.locking true) .asking⟩

def firstAsk : Event := ⟨0, 0, tenant, .steps .asking (.awaiting (.ok (token "first")))⟩

def window : List Event :=
  [firstAsk,
    ⟨0, 1, tenant, .steps .reading (.locking true)⟩, ⟨0, 1, tenant, .steps (.locking true) (.polling 9)⟩,
    ⟨100, 0, tenant, .steps (.awaiting (.ok (token "first"))) (.storing (token "first"))⟩,
    ⟨100, 0, tenant, .steps (.storing (token "first")) (.releasing (.ok "first"))⟩]

def release : Event := ⟨100, 0, tenant, .steps (.releasing (.ok "first")) (.finished (.ok (some "first")))⟩

def looks : List Event :=
  [⟨500, 1, tenant, .steps (.polling 9) (.finished (.ok (some "first")))⟩,
    ⟨400500, 2, tenant, .begins .reading⟩, ⟨400500, 3, tenant, .begins .reading⟩,
    ⟨400500, 2, tenant, .steps .reading (.measuring "first")⟩,
    ⟨400500, 2, tenant, .steps (.measuring "first") (.finished (.ok (some "first")))⟩,
    ⟨400500, 3, tenant, .steps .reading (.measuring "first")⟩,
    ⟨400500, 3, tenant, .steps (.measuring "first") (.finished (.ok (some "first")))⟩]

def secondAsk : Event := ⟨400500, 4, tenant, .steps .asking (.awaiting (.ok (token "second")))⟩

def renewals : List Event :=
  [⟨400500, 4, tenant, .steps (.locking false) .asking⟩, secondAsk,
    ⟨400500, 4, tenant, .steps (.awaiting (.ok (token "second"))) (.storing (token "second"))⟩,
    ⟨400500, 4, tenant, .steps (.storing (token "second")) (.releasing (.ok "second"))⟩,
    ⟨400500, 4, tenant, .steps (.releasing (.ok "second")) (.finished (.ok (some "second")))⟩,
    ⟨400500, 5, tenant, .steps (.locking false) .asking⟩]

def ask : Event := ⟨400500, 5, tenant, .steps .asking (.awaiting (.ok (token "third")))⟩

def before : List Event := opening ++ win :: (window ++ release :: (looks ++ renewals))

def choices : List (Nat × Choice) :=
  let first : Answer := ⟨100, .ok (token "first")⟩
  let second : Answer := ⟨0, .ok (token "second")⟩
  [(0, .begin tenant .reading), (0, .begin tenant .reading), (0, .step 0 first), (0, .step 0 first),
    (0, .step 0 first), (0, .step 1 first), (0, .step 1 first), (100, .step 0 first), (100, .step 0 first),
    (100, .step 0 first), (500, .step 1 first), (400500, .begin tenant .reading), (400500, .begin tenant .reading),
    (400500, .step 2 second), (400500, .step 2 second), (400500, .step 3 second), (400500, .step 3 second),
    (400500, .step 4 second), (400500, .step 4 second), (400500, .step 4 second), (400500, .step 4 second),
    (400500, .step 4 second), (400500, .step 5 second)]

theorem exists_run : ∃ s u, (⟨0, .empty, []⟩ : Traffic).Run before s ∧ s.Next ask u ∧
    IsFresh s.store ask.instant tenant := by
  have played : ∃ s u, (⟨0, .empty, []⟩ : Traffic).replay choices = some (before, s) ∧
      s.choose? 400500 (.step 5 ⟨0, .ok (token "third")⟩) = some (ask, u) ∧
      (stored? s.store ask.instant tenant).isSome = true ∧ isLow s.store ask.instant tenant = false :=
    ⟨_, _, rfl, rfl, rfl, rfl⟩
  obtain ⟨s, u, past, next, fresh⟩ := played
  exact ⟨s, u, replay_run past, next_of_choose? next, fresh⟩

theorem ofTenant : ∀ e ∈ before ++ [ask], e.tenant = tenant ∧ ¬ e.Cancels := by
  simp [before, opening, win, window, firstAsk, release, looks, renewals, secondAsk, ask, Event.Cancels]

theorem keeps : ∀ e ∈ window, e.tenant.tenantId = tenant.tenantId → ¬ e.Releases := by
  simp [window, firstAsk, Event.Releases]

theorem tries : ∀ call ∈ [0, 1], ∃ e ∈ win :: window, e.call = call ∧ e.Tries tenant := by
  intro call among
  rcases List.mem_pair.mp among with rfl | rfl
  · exact ⟨win, List.mem_cons_self .., rfl, rfl, true, _, rfl⟩
  · exact ⟨_, List.mem_cons_of_mem _ (List.mem_of_getElem? (i := 2) rfl), rfl, rfl, true, _, rfl⟩

end Overtaken

end Traffic
end ReplyGateway.Token
