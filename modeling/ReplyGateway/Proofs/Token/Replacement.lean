import Mathlib
import ReplyGateway.Proofs.Token.Look
import ReplyGateway.Proofs.Token.Solo

namespace ReplyGateway.Token.Schedule

variable {σ : Type} {issuer : Issuer σ} {tenant : Credentials} {s : Schedule σ} {since : Nat} {before after : List Task}
  {t : Task}

/-- A step of a call stores the token of a tenant, throws it away, or leaves it as it is. -/
theorem token_advance_cases (issuer : Issuer σ) (s : Schedule σ) (before : List Task) (t : Task) (after : List Task)
    (tenant : Credentials) :
    (∃ token, t.tenant.tenantId = tenant.tenantId ∧ t.stage = .storing token ∧
        (s.advance issuer before t after).store.entries.get? tenant.accessTokenKey =
          some ⟨token.value, KeyValue.expiry (max s.now t.ready) (min token.lifetime maxLifetime)⟩) ∨
      (t.tenant.tenantId = tenant.tenantId ∧ t.stage = .dropping ∧
        (s.advance issuer before t after).store.entries.get? tenant.accessTokenKey = none) ∨
      (s.advance issuer before t after).store.entries.get? tenant.accessTokenKey =
        s.store.entries.get? tenant.accessTokenKey := by
  rw [advance, (t.stage.step_eq_move t.tenant (max s.now t.ready) s.store issuer s.issuer).2.1]
  by_cases own : t.tenant.tenantId = tenant.tenantId
  · rw [← Credentials.accessTokenKey_inj.mpr own]
    rcases Stage.token_move_cases (issuer t.tenant s.issuer).1 t.tenant (max s.now t.ready) s.store t.stage with
      ⟨token, storing, stored⟩ | dropping | same
    · exact .inl ⟨token, own, storing, stored⟩
    · refine .inr (.inl ⟨own, dropping, ?_⟩)
      rw [dropping]
      exact Table.get?_erase_self ..
    · exact .inr (.inr same)
  · right; right
    refine Stage.entries_move_of_ne _ t.tenant _ s.store t.stage ?_ ?_
    · exact fun same => own (Credentials.accessTokenKey_inj.mp same)
    · exact (Credentials.accessTokenKey_ne_lockKey _ _).symm

/-- Whether a call stored an entry at an instant or later. -/
def IsNew (since : Nat) (entry : KeyValue.Entry) : Prop :=
  ∃ (token : Issued) (instant : Nat), since ≤ instant ∧
    entry = ⟨token.value, KeyValue.expiry instant (min token.lifetime maxLifetime)⟩

/-- If there is a token, it was stored since an instant. -/
structure HasOnlyNew (s : Schedule σ) (tenant : Credentials) (since : Nat) : Prop where
  now : since ≤ s.now
  entry : ∀ entry, s.store.entries.get? tenant.accessTokenKey = some entry → IsNew since entry

/-- One step leaves no token that was stored before the instant, if there was none. -/
theorem HasOnlyNew.advance (only : s.HasOnlyNew tenant since) :
    (s.advance issuer before t after).HasOnlyNew tenant since := by
  have later : since ≤ max s.now t.ready := only.now.trans (Nat.le_max_left ..)
  refine ⟨later, fun entry found => ?_⟩
  rcases token_advance_cases issuer s before t after tenant with ⟨token, _, _, stored⟩ | ⟨_, _, gone⟩ | same
  · rw [stored] at found
    exact ⟨token, _, later, (Option.some.inj found).symm⟩
  · rw [gone] at found
    cases found
  · exact only.entry entry (same ▸ found)

theorem HasOnlyNew.runWhile (goesOn : Schedule σ → Task → Bool) (only : s.HasOnlyNew tenant since) :
    (s.runWhile issuer goesOn).HasOnlyNew tenant since :=
  runWhile_keeps issuer (·.HasOnlyNew tenant since) (fun only _ => only.advance) goesOn only

/-- The call that stands first is about to throw the token away, or has done so since an instant. -/
def Drops (s : Schedule σ) (tenant : Credentials) (since : Nat) : Prop :=
  (since ≤ s.now ∧ ∃ t rest, s.tasks = t :: rest ∧ t.tenant = tenant ∧ t.stage = .dropping) ∨ s.HasOnlyNew tenant since

theorem Drops.advance (drops : s.Drops tenant since) (found : Task.next? s.tasks = some (before, t, after)) :
    (s.advance issuer before t after).Drops tenant since := by
  rcases drops with ⟨early, f, rest, tasks, rfl, dropping⟩ | only
  · obtain ⟨split, _⟩ := Task.next?_eq_some found
    rw [tasks] at split
    cases before with
    | nil =>
      obtain ⟨rfl, rfl⟩ := List.cons.inj split
      refine .inr ⟨early.trans (Nat.le_max_left ..), fun entry found => ?_⟩
      simp [Schedule.advance, dropping, Stage.step, KeyValue.delete] at found
    | cons g before =>
      obtain ⟨rfl, _⟩ := List.cons.inj split
      exact .inl ⟨early.trans (Nat.le_max_left ..), f, _, rfl, rfl, dropping⟩
  · exact .inr only.advance

/-- A run of the schedule throws the token away once, and leaves only newer ones. -/
theorem Drops.runWhile (goesOn : Schedule σ → Task → Bool) (drops : s.Drops tenant since) :
    (s.runWhile issuer goesOn).Drops tenant since :=
  runWhile_keeps issuer (·.Drops tenant since) (fun drops found => drops.advance found) goesOn drops

/-- A call that replaces a token leaves none, or one that was stored after it began, whoever else is at work. -/
theorem entry_of_replaceToken {entry : KeyValue.Entry}
    (found : (s.replaceToken issuer tenant).1.store.entries.get? tenant.accessTokenKey = some entry) :
    IsNew s.now entry := by
  have begun : (s.begun tenant .dropping).Drops tenant s.now := .inl ⟨Nat.le_refl _, _, _, rfl, rfl, rfl⟩
  obtain ⟨ran, t, rest, ran_eq, tasks, finished, called⟩ := exists_call_eq issuer s tenant .dropping
  have drops : ran.Drops tenant s.now := ran_eq ▸ begun.runWhile _
  have only : ran.HasOnlyNew tenant s.now := by
    rcases drops with ⟨_, f, more, tasks', _, dropping⟩ | only
    · obtain ⟨rfl, rfl⟩ := List.cons.inj (tasks.symm.trans tasks')
      rw [dropping] at finished
      cases finished
    · exact only
  have others : ({ ran with tasks := rest } : Schedule σ).HasOnlyNew tenant s.now := ⟨only.now, only.entry⟩
  rw [replaceToken, called] at found
  exact (others.runWhile _).entry entry found

end ReplyGateway.Token.Schedule
