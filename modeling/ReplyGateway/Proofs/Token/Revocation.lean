import Mathlib
import ReplyGateway.Proofs.Token.Lease
import ReplyGateway.Proofs.Token.SingleFlight

namespace ReplyGateway.Token

namespace Stage

/-- The text of the token that a call has. -/
def carried? : Stage → Option String
  | measuring token => some token
  | awaiting (.ok token) | storing token => some token.value
  | releasing (.ok token) => some token
  | finished (.ok token) => token
  | _ => none

theorem carried?_of_isEntry {s : Stage} (entry : s.isEntry = true) : s.carried? = none := by
  cases s <;> simp_all [isEntry, carried?]

/-- A call has had its token before, or finds it in the store, or is issued it. -/
theorem carried?_move (answer : Answer) (tenant : Credentials) (now : Nat) (store : KeyValue) {s : Stage}
    {text : String} (has : (s.move answer tenant now store).stage.carried? = some text) :
    s.carried? = some text ∨ stored? store now tenant = some text ∨
      ∃ token, s = asking ∧ (s.move answer tenant now store).stage = awaiting (.ok token) ∧ token.value = text := by
  cases s with
  | reading =>
    simp only [move, step] at has
    split at has
    · rename_i found
      exact .inr (.inl (found.trans has))
    · cases has
  | measuring => exact .inl has
  | dropping => cases has
  | locking => simp only [move, step] at has; split at has <;> cases has
  | asking =>
    obtain ⟨delay, result⟩ := answer
    cases result with
    | error => cases has
    | ok token => exact .inr (.inr ⟨token, rfl, rfl, Option.some.inj has⟩)
  | awaiting result =>
    cases result with
    | error => cases has
    | ok => exact .inl has
  | storing => exact .inl has
  | releasing outcome =>
    cases outcome with
    | error => cases has
    | ok => exact .inl has
  | polling =>
    simp only [move, step] at has
    split at has
    · rename_i found
      exact .inr (.inl (found.trans has))
    · cases has
    · cases has
  | finished => exact .inl has

end Stage

namespace Traffic

/-- The issuer gives no token of a tenant twice, and none that was there at the start. -/
structure IssuesAnew (tenant : Credentials) (start : Traffic) (events : List Event) : Prop where
  once : events.Pairwise fun a b => ∀ x y, a.Asks tenant x → b.Asks tenant y → x.value ≠ y.value
  fresh : ∀ e ∈ events, ∀ token entry, e.Asks tenant token →
    start.store.entries.get? tenant.accessTokenKey = some entry → token.value ≠ entry.value

/-- A token was there at the start or has been stored since. -/
def IsSpent (tenant : Credentials) (start : Traffic) (events : List Event) (text : String) : Prop :=
  (∃ entry, start.store.entries.get? tenant.accessTokenKey = some entry ∧ entry.value = text) ∨
    ∃ e ∈ events, ∃ token, e.Stores tenant token ∧ token.value = text

variable {start s t u : Traffic} {e drop store : Event} {events before after : List Event} {tenant : Credentials}
  {token : Issued} {text : String} {call : Nat} {c : Caller}

theorem IssuesAnew.of_append (anew : IssuesAnew tenant start (before ++ after)) : IssuesAnew tenant start before :=
  ⟨(List.pairwise_append.mp anew.once).1, fun e member => anew.fresh e (List.mem_append_left _ member)⟩

theorem IsSpent.append (spent : IsSpent tenant start before text) (after : List Event) :
    IsSpent tenant start (before ++ after) text := by
  refine spent.imp_right ?_
  rintro ⟨store, member, rest⟩
  exact ⟨store, List.mem_append_left _ member, rest⟩

theorem Run.isSpent_of_entry {entry : KeyValue.Entry} (run : start.Run events t)
    (found : t.store.entries.get? tenant.accessTokenKey = some entry) : IsSpent tenant start events entry.value := by
  induction run with
  | start => exact .inl ⟨entry, found, rfl⟩
  | @next events t u e run next ih =>
    rcases next.token_entry_cases tenant with ⟨token, stores⟩ | drops | same
    · obtain rfl := Option.some.inj ((next.entry_of_stores stores).symm.trans found)
      exact .inr ⟨e, List.mem_append_right _ (List.mem_singleton_self _), token, stores, rfl⟩
    · have key := Credentials.accessTokenKey_inj.mpr drops.1
      rw [next.entry_of_clears (.inr ⟨⟨rfl, drops.2⟩, key.symm⟩)] at found
      cases found
    · exact (ih (same ▸ found)).append [e]

/-- Who stores a token was issued it before. -/
theorem Run.asked_of_stores (run : start.Run events t) (idle : start.callers = []) (next : t.Next store u)
    (stores : store.Stores tenant token) : ∃ ask ∈ events, ask.call = store.call ∧ ask.Asks tenant token := by
  obtain ⟨⟨c, found, working, own, stage⟩, _⟩ := next.holds_of_stores stores
  rcases run.asked_of_issued found own working (by rw [stage]; rfl) with asked | ⟨_, there, _⟩
  · exact asked
  · simp [idle] at there

theorem Run.asked_of_mem_stores (run : start.Run events t) (idle : start.callers = []) (member : store ∈ events)
    (stores : store.Stores tenant token) : ∃ ask ∈ events, ask.call = store.call ∧ ask.Asks tenant token := by
  obtain ⟨first, rest, a, b, rfl, past, next, _⟩ := run.around member
  obtain ⟨ask, among, asked⟩ := past.asked_of_stores idle next stores
  exact ⟨ask, List.mem_append_left _ among, asked⟩

/-- A call stores at most one token. -/
theorem Run.call_ne_of_stores {again : Issued} (run : start.Run events s) (member : store ∈ events)
    (stores : store.Stores tenant token) (next : s.Next e u) (storesAgain : e.Stores tenant again) :
    e.call ≠ store.call := by
  intro same
  obtain ⟨first, rest, a, b, rfl, _, now, since⟩ := run.around member
  obtain ⟨_, c, found, _, _, outcome, releasing⟩ := now.holds_of_stores stores
  obtain ⟨⟨d, there, _, _, storing⟩, _⟩ := next.holds_of_stores storesAgain
  obtain ⟨d', found', le⟩ := since.rank_le found
  rw [← same, there, Option.some.injEq] at found'
  rw [← found', storing, releasing] at le
  exact absurd le (by simp [Stage.rank])

/-- A token that was there once is not issued any more. -/
theorem Run.not_asked_of_isSpent (past : start.Run before s) (idle : start.callers = [])
    (anew : IssuesAnew tenant start (before ++ after)) (spent : IsSpent tenant start before text) (member : e ∈ after)
    (asks : e.Asks tenant token) : token.value ≠ text := by
  rcases spent with ⟨entry, found, rfl⟩ | ⟨store, among, old, stores, rfl⟩
  · exact anew.fresh e (List.mem_append_right _ member) token entry asks found
  · obtain ⟨ask, earlier, _, asked⟩ := past.asked_of_mem_stores idle among stores
    exact ((List.pairwise_append.mp anew.once).2.2 ask earlier e member old token asked asks).symm

/-- Of an issuer that repeats nothing, a token comes from one answer. -/
theorem IssuesAnew.eq_of_asks {ask again : Event} {other : Issued} (anew : IssuesAnew tenant start events)
    (member : ask ∈ events) (memberAgain : again ∈ events) (asks : ask.Asks tenant token)
    (asksAgain : again.Asks tenant other) (same : token.value = other.value) : ask = again := by
  by_contra different
  have symmetric : Std.Symm fun a b : Event => ∀ x y, a.Asks tenant x → b.Asks tenant y → x.value ≠ y.value :=
    ⟨fun _ _ distinct x y first second => (distinct y x second first).symm⟩
  exact anew.once.forall member memberAgain different token other asks asksAgain same

/-- A token that was there once is not stored any more, not even by a call that was issued it long ago. -/
theorem Run.not_stored_of_isSpent (past : start.Run before s) (future : s.Run after t) (idle : start.callers = [])
    (anew : IssuesAnew tenant start (before ++ after)) (spent : IsSpent tenant start before text)
    (member : store ∈ after) (stores : store.Stores tenant token) : token.value ≠ text := by
  obtain ⟨first, rest, a, b, rfl, since, next, _⟩ := future.around member
  have run : start.Run (before ++ first) a := past.append since
  obtain ⟨ask, among, own, asks⟩ := run.asked_of_stores idle next stores
  have inAll : ask ∈ before ++ (first ++ store :: rest) := by
    rw [← List.append_assoc]
    exact List.mem_append_left _ among
  rcases List.mem_append.mp among with earlier | later
  · rcases spent with ⟨entry, found, rfl⟩ | ⟨storeBefore, amongBefore, old, storesBefore, rfl⟩
    · exact anew.fresh ask inAll token entry asks found
    · intro same
      obtain ⟨askBefore, amongAsks, ownBefore, asksBefore⟩ := past.asked_of_mem_stores idle amongBefore storesBefore
      -- the two were issued by one answer, so that one call would store twice
      have one : ask = askBefore := anew.eq_of_asks inAll (List.mem_append_left _ amongAsks) asks asksBefore same
      have twice : store.call = storeBefore.call := by rw [← own, one, ownBefore]
      exact run.call_ne_of_stores (List.mem_append_left _ amongBefore) storesBefore next stores twice
  · exact past.not_asked_of_isSpent idle anew spent (List.mem_append_left _ later) asks

/-- After a token has been thrown away, only a call that had it then may have it. -/
theorem Run.carried_of_dropped (past : start.Run before s) (run : s.Run after t) (idle : start.callers = [])
    (anew : IssuesAnew tenant start (before ++ after)) (spent : IsSpent tenant start before text)
    (gone : s.store.entries.get? tenant.accessTokenKey = none) (found : t.callers[call]? = some c)
    (own : c.tenant.tenantId = tenant.tenantId) (carries : c.stage.carried? = some text) :
    ∃ d, s.callers[call]? = some d ∧ d.stage.carried? = some text := by
  induction run generalizing c with
  | start => exact ⟨c, found, carries⟩
  | @next after t u e run next ih =>
    have anewBefore : IssuesAnew tenant start (before ++ after) := by
      rw [← List.append_assoc] at anew
      exact anew.of_append
    cases next.origin found with
    | kept d found sameTenant stage => exact ih anewBefore found (sameTenant ▸ own) (stage ▸ carries)
    | stepped d answer found sameTenant stage event =>
      rw [stage] at carries
      rcases Stage.carried?_move answer d.tenant e.instant t.store carries with
        had | stored | ⟨token, asking, answered, rfl⟩
      · exact ih anewBefore found (sameTenant ▸ own) had
      · rw [stored?_congr (show d.tenant.tenantId = tenant.tenantId from sameTenant ▸ own)] at stored
        simp only [stored?, KeyValue.get?, KeyValue.live?, Option.filter_eq_some_iff, Option.map_eq_some_iff] at stored
        obtain ⟨⟨entry, ⟨there, _⟩, rfl⟩, _⟩ := stored
        rcases run.isSpent_of_entry there with ⟨_, still, _⟩ | ⟨store, member, token, stores, same⟩
        · rw [gone] at still
          cases still
        · exact absurd same (past.not_stored_of_isSpent run idle anewBefore spent member stores)
      · have asks : e.Asks tenant token := by
          rw [event]
          exact ⟨own, by rw [stage, answered, asking]⟩
        have member : e ∈ after ++ [e] := List.mem_append_right _ (List.mem_singleton_self _)
        exact absurd rfl (past.not_asked_of_isSpent idle anew spent member asks)
    | began entry =>
      rw [Stage.carried?_of_isEntry entry] at carries
      cases carries
    | renewal _ _ _ stage =>
      rw [stage] at carries
      cases carries

end Traffic
end ReplyGateway.Token
