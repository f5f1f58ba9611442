import Mathlib
import ReplyGateway.Proofs.Token.Replay

namespace ReplyGateway.Token

/-- There is a token in a store, and it need not be renewed yet. -/
def IsFresh (store : KeyValue) (now : Nat) (tenant : Credentials) : Prop :=
  (stored? store now tenant).isSome = true ∧ isLow store now tenant = false

theorem stored?_congr {store : KeyValue} {now : Nat} {a b : Credentials} (same : a.tenantId = b.tenantId) :
    stored? store now a = stored? store now b := by
  rw [stored?, stored?, Credentials.accessTokenKey_inj.mpr same]

theorem isLow_congr {store : KeyValue} {now : Nat} {a b : Credentials} (same : a.tenantId = b.tenantId) :
    isLow store now a = isLow store now b := by
  rw [isLow, isLow, Credentials.accessTokenKey_inj.mpr same]

/-- A token that need not be renewed later need not be renewed now. -/
theorem IsFresh.of_le {store later : KeyValue} {now instant : Nat} {tenant : Credentials} (order : now ≤ instant)
    (same : later.entries.get? tenant.accessTokenKey = store.entries.get? tenant.accessTokenKey)
    (fresh : IsFresh later instant tenant) : IsFresh store now tenant := by
  obtain ⟨has, enough⟩ := fresh
  simp only [stored?, isLow, KeyValue.get?, KeyValue.lifetime?, KeyValue.live?, same] at has enough
  simp only [IsFresh, stored?, isLow, KeyValue.get?, KeyValue.lifetime?, KeyValue.live?]
  cases entry : store.entries.get? tenant.accessTokenKey with
  | none => simp [entry] at has
  | some token =>
    rw [entry] at has enough
    by_cases live : token.isLive instant = true
    · have earlier : token.isLive now = true := KeyValue.Entry.isLive_of_le order live
      simp only [Option.filter, live, earlier, if_true] at has enough ⊢
      refine ⟨has, ?_⟩
      cases ends : token.expiresAt with
      | none => simp [ends]
      | some instant' =>
        simp only [ends, Option.map_some, Option.bind_some, Option.any_some, decide_eq_false_iff_not] at enough ⊢
        omega
    · simp [Option.filter, live] at has

namespace Stage

variable (answer : Answer) (tenant : Credentials) (now : Nat) (store : KeyValue)

/-- What a step does to the token in the store: it stores one, throws it away, or leaves it as it is. -/
theorem token_move_cases (s : Stage) :
    (∃ token, s = storing token ∧ (s.move answer tenant now store).store.entries.get? tenant.accessTokenKey =
        some ⟨token.value, KeyValue.expiry now (min token.lifetime maxLifetime)⟩) ∨
      s = dropping ∨
      (s.move answer tenant now store).store.entries.get? tenant.accessTokenKey =
        store.entries.get? tenant.accessTokenKey := by
  have other : tenant.lockKey ≠ tenant.accessTokenKey := (Credentials.accessTokenKey_ne_lockKey _ _).symm
  cases s with
  | reading => right; right; simp only [move, step]; split <;> rfl
  | dropping => exact .inr (.inl rfl)
  | locking waits =>
    right; right
    simp only [move, step]
    split
    · rename_i won
      obtain ⟨_, rfl⟩ := by simpa [KeyValue.setIfAbsent?] using won
      exact Table.get?_put_of_ne other
    · rfl
    · rfl
  | awaiting result => cases result <;> exact .inr (.inr rfl)
  | storing token => exact .inl ⟨token, rfl, by simp [move, step, KeyValue.set]⟩
  | releasing => exact .inr (.inr (Table.get?_erase_of_ne other))
  | polling => right; right; simp only [move, step]; split <;> rfl
  | _ => exact .inr (.inr rfl)

/-- No step leads to throwing a token away: that is what a call begins with. -/
theorem stage_move_ne_dropping (s : Stage) (h : s ≠ dropping) : (s.move answer tenant now store).stage ≠ dropping := by
  cases s with
  | reading => simp only [move, step]; split <;> simp
  | dropping => exact absurd rfl h
  | locking => simp only [move, step]; split <;> simp
  | awaiting result => cases result <;> simp [move, step]
  | polling => simp only [move, step]; split <;> simp
  | _ => simp [move, step]

/-- The stages on the way from a look at the store to asking the issuer. -/
def isRenewing : Stage → Bool
  | locking _ | asking => true
  | _ => false

/-- A call comes to renew a token by finding none, or it was about to before. -/
theorem isRenewing_move {s : Stage} (kept : s ≠ dropping)
    (renewing : (s.move answer tenant now store).stage.isRenewing = true) :
    (s = reading ∧ (s.move answer tenant now store).stage = locking true ∧ stored? store now tenant = none) ∨
      s.isRenewing = true := by
  cases s with
  | reading =>
    simp only [move, step] at renewing
    split at renewing
    · cases renewing
    · rename_i none
      exact .inl ⟨rfl, by simp [move, step, none], none⟩
  | dropping => exact absurd rfl kept
  | locking => exact .inr rfl
  | asking => exact .inr rfl
  | awaiting result => cases result <;> simp [move, step, isRenewing] at renewing
  | polling => simp only [move, step] at renewing; split at renewing <;> cases renewing
  | _ => simp [move, step, isRenewing] at renewing

end Stage

namespace Traffic

/-- All calls that begin look for a token in the store. -/
def BeginReading (events : List Event) : Prop := ∀ e ∈ events, ∀ stage, e.deed = .begins stage → stage = .reading

/-- Where a call that is there after an event comes from. -/
inductive Origin (s : Traffic) (e : Event) (call : Nat) (d : Caller) : Prop
  | kept (c : Caller) : s.callers[call]? = some c → c.tenant = d.tenant → c.stage = d.stage → Origin s e call d
  | stepped (c : Caller) (answer : Answer) : s.callers[call]? = some c → c.tenant = d.tenant →
      d.stage = (c.stage.move answer c.tenant e.instant s.store).stage →
      e = ⟨e.instant, call, d.tenant, .steps c.stage d.stage⟩ → Origin s e call d
  | began : d.stage.isEntry = true → e = ⟨e.instant, call, d.tenant, .begins d.stage⟩ → Origin s e call d
  | renewal (token : String) (after : Stage) : call = s.callers.length → d.stage = .renewal → e.tenant = d.tenant →
      e.deed = .steps (.measuring token) after → isLow s.store e.instant e.tenant = true → Origin s e call d

variable {start s t u : Traffic} {e look : Event} {events first rest middle : List Event} {tenant : Credentials}
  {call : Nat} {c d : Caller}

/-- A call that is there after an event was there before, or has just begun, or took the step. -/
theorem Next.origin (next : s.Next e u) (found : u.callers[call]? = some d) : s.Origin e call d := by
  by_cases bound : call < s.callers.length
  · have before := List.getElem?_eq_getElem bound
    by_cases own : call = e.call
    · subst own
      cases next with
      | begin => exact absurd bound (Nat.lt_irrefl _)
      | step working =>
        rw [callers_advance_self working, Option.some.injEq] at found
        subst found
        exact .stepped _ _ working rfl rfl rfl
      | cancel working =>
        rw [List.getElem?_set_self bound, Option.some.injEq] at found
        subst found
        exact .kept _ working rfl rfl
    · rw [next.caller_kept own before, Option.some.injEq] at found
      exact .kept _ before (by rw [found]) (by rw [found])
  · cases next with
    | begin entry =>
      have length := (List.getElem?_eq_some_iff.mp found).1
      simp only [List.length_append, List.length_singleton] at length
      obtain rfl : call = s.callers.length := by omega
      simp only [List.getElem?_concat_length, Option.some.injEq] at found
      subst found
      exact .began entry rfl
    | @step _ c answer instant =>
      simp only [advance] at found
      rw [List.getElem?_append_right (by simpa using bound)] at found
      split at found
      · rename_i starts
        have length := (List.getElem?_eq_some_iff.mp found).1
        simp only [List.length_set, List.length_singleton] at length
        obtain rfl : call = s.callers.length := by omega
        simp only [List.length_set, Nat.sub_self, List.getElem?_cons_zero, Option.some.injEq] at found
        subst found
        cases stage : c.stage <;> simp only [stage, Stage.startsRenewal, Bool.false_eq_true] at starts
        exact .renewal _ _ rfl rfl rfl rfl starts
      · simp at found
    | cancel => simp [bound] at found

theorem Next.caller_of_steps {before after : Stage} (next : s.Next e u) (deed : e.deed = .steps before after) :
    ∃ c answer d, s.callers[e.call]? = some c ∧ c.tenant = e.tenant ∧ c.stage = before ∧
      after = (before.move answer e.tenant e.instant s.store).stage ∧
      u.callers[e.call]? = some d ∧ d.tenant = e.tenant ∧ d.stage = after := by
  cases next with
  | begin => cases deed
  | step found =>
    obtain ⟨rfl, rfl⟩ := Deed.steps.inj deed
    exact ⟨_, _, _, found, rfl, rfl, rfl, callers_advance_self found, rfl, rfl⟩
  | cancel => cases deed

/-- What an event does to the token of a tenant: a call stores one, or throws it away, or it stays as it is. -/
theorem Next.token_cases (next : s.Next e u) (tenant : Credentials) :
    (∃ token, e.Stores tenant token ∧ u.store.entries.get? tenant.accessTokenKey =
        some ⟨token.value, KeyValue.expiry e.instant (min token.lifetime maxLifetime)⟩) ∨
      (∃ c, s.callers[e.call]? = some c ∧ c.stage = .dropping) ∨
      u.store.entries.get? tenant.accessTokenKey = s.store.entries.get? tenant.accessTokenKey := by
  cases next with
  | begin => exact .inr (.inr rfl)
  | cancel => exact .inr (.inr rfl)
  | @step call c answer instant found =>
    by_cases own : c.tenant.tenantId = tenant.tenantId
    · have key : c.tenant.accessTokenKey = tenant.accessTokenKey := Credentials.accessTokenKey_inj.mpr own
      rcases Stage.token_move_cases answer c.tenant instant s.store c.stage with
        ⟨token, storing, entry⟩ | dropping | same
      · exact .inl ⟨token, ⟨own, _, by rw [storing]⟩, key ▸ entry⟩
      · exact .inr (.inl ⟨c, found, dropping⟩)
      · exact .inr (.inr (key ▸ same))
    · right; right
      refine Stage.entries_move_of_ne answer c.tenant instant s.store c.stage ?_ ?_
      · exact fun same => own (Credentials.accessTokenKey_inj.mp same)
      · exact (Credentials.accessTokenKey_ne_lockKey _ _).symm

theorem Run.stage_ne_dropping (run : start.Run events u) (idle : start.callers = []) (reads : BeginReading events)
    (found : u.callers[call]? = some c) : c.stage ≠ .dropping := by
  induction run generalizing call c with
  | start => simp [idle] at found
  | next run next ih =>
    have readsBefore : BeginReading _ := fun e member => reads e (List.mem_append_left _ member)
    cases next.origin found with
    | kept c found _ stage => exact stage ▸ ih readsBefore found
    | stepped c answer found _ stage =>
      rw [stage]
      exact Stage.stage_move_ne_dropping answer c.tenant _ _ _ (ih readsBefore found)
    | began _ deed =>
      have reading := reads _ (List.mem_append_right _ (List.mem_singleton_self _)) c.stage (by rw [deed])
      simp [reading]
    | renewal _ _ _ stage => simp [stage, Stage.renewal]

/-- A look at the store, by which a call is going to renew the token of a tenant: it has found none itself, or it is the
renewal that begins because the token is soon over. -/
def Looks (s : Traffic) (look : Event) (tenant : Credentials) (call : Nat) : Prop :=
  look.tenant.tenantId = tenant.tenantId ∧ ¬ IsFresh s.store look.instant tenant ∧
    ((look.call = call ∧ look.deed = .steps .reading (.locking true)) ∨
      (call = s.callers.length ∧ isLow s.store look.instant tenant = true ∧
        ∃ token after, look.deed = .steps (.measuring token) after))

/-- A call that is about to renew a token has its reason in an earlier look at the store. What it found there may be
out of date by then, as the token is not looked at again when the lock is won. -/
theorem Run.looked (run : start.Run events u) (idle : start.callers = []) (reads : BeginReading events)
    (found : u.callers[call]? = some d) (own : d.tenant.tenantId = tenant.tenantId)
    (renewing : d.stage.isRenewing = true) :
    ∃ first look middle s t, events = first ++ look :: middle ∧ start.Run first s ∧ s.Next look t ∧ t.Run middle u ∧
      s.Looks look tenant call := by
  induction run generalizing call d with
  | start => simp [idle] at found
  | @next events s u e run next ih =>
    have readsBefore : BeginReading events := fun e member => reads e (List.mem_append_left _ member)
    have earlier {c : Caller} (found : s.callers[call]? = some c) (own : c.tenant.tenantId = tenant.tenantId)
        (renewing : c.stage.isRenewing = true) : ∃ first look middle a b, events ++ [e] = first ++ look :: middle ∧
          start.Run first a ∧ a.Next look b ∧ b.Run middle u ∧ a.Looks look tenant call := by
      obtain ⟨first, look, middle, a, b, rfl, past, now, since, looks⟩ := ih readsBefore found own renewing
      exact ⟨first, look, middle ++ [e], a, b, by simp, past, now, since.next next, looks⟩
    -- either the call has its reason already, or this event is the look that gives it one
    cases next.origin found with
    | kept c found sameTenant stage => exact earlier found (sameTenant ▸ own) (stage ▸ renewing)
    | stepped c answer found sameTenant stage event =>
      have notDropping := run.stage_ne_dropping idle readsBefore found
      rw [stage] at renewing
      rcases Stage.isRenewing_move answer c.tenant e.instant s.store notDropping renewing with
        ⟨reading, locking, none⟩ | before
      · refine ⟨events, e, [], s, u, rfl, run, next, .start, by rwa [event], ?_, .inl ⟨by rw [event], ?_⟩⟩
        · rintro ⟨has, _⟩
          rw [stored?_congr (show c.tenant.tenantId = tenant.tenantId from sameTenant ▸ own)] at none
          simp [none] at has
        · rw [event, stage, locking, reading]
      · exact earlier found (sameTenant ▸ own) before
    | began _ event =>
      have reading := reads e (List.mem_append_right _ (List.mem_singleton_self _)) d.stage (by rw [event])
      simp [reading, Stage.isRenewing] at renewing
    | renewal token after place stage sameTenant deed low =>
      have ofTenant : e.tenant.tenantId = tenant.tenantId := sameTenant ▸ own
      rw [isLow_congr ofTenant] at low
      refine ⟨events, e, [], s, u, rfl, run, next, .start, ofTenant, ?_, .inr ⟨place, low, token, after, deed⟩⟩
      rintro ⟨_, enough⟩
      rw [enough] at low
      cases low

/-- The token of a tenant stays as it is, or it is the one that a call stored last. -/
theorem Run.token_kept_or_stored (past : start.Run first s) (idle : start.callers = [])
    (reads : BeginReading (first ++ rest)) (run : s.Run rest u) (tenant : Credentials) :
    u.store.entries.get? tenant.accessTokenKey = s.store.entries.get? tenant.accessTokenKey ∨
      ∃ e ∈ rest, ∃ token, e.Stores tenant token ∧ u.store.entries.get? tenant.accessTokenKey =
        some ⟨token.value, KeyValue.expiry e.instant (min token.lifetime maxLifetime)⟩ := by
  induction run with
  | start => exact .inl rfl
  | @next rest u v e run next ih =>
    have readsBefore : BeginReading (first ++ rest) := by
      intro e member
      refine reads e ?_
      rw [← List.append_assoc]
      exact List.mem_append_left _ member
    rcases next.token_cases tenant with ⟨token, stores, entry⟩ | ⟨c, found, dropping⟩ | same
    · exact .inr ⟨e, List.mem_append_right _ (List.mem_singleton_self _), token, stores, entry⟩
    · exact absurd dropping ((past.append run).stage_ne_dropping idle readsBefore found)
    · rw [same]
      refine (ih readsBefore).imp_right ?_
      rintro ⟨e, member, stored⟩
      exact ⟨e, List.mem_append_left _ member, stored⟩

end Traffic
end ReplyGateway.Token
