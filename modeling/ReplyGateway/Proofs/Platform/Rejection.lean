import Mathlib
import ReplyGateway.Proofs.Platform.Traffic
import ReplyGateway.Proofs.Token.Revocation

namespace ReplyGateway.Platform

/-- A token that was thrown away does not come back. -/
structure StaysAway (tenant : Credentials) (text : String) (drop : Token.Event) (after : List Event) (t : Traffic) :
    Prop where
  stored : ∀ e ∈ Traffic.calls after, ∀ token, e.Stores tenant token → token.value ≠ text
  /-- The call that has thrown it away gets another token, if it gets one. -/
  replaced : ∀ outcome token, t.outcome? drop.call = some outcome →
    Token.Schedule.required tenant outcome = .ok token → token ≠ text
  /-- A call to the platform that begins afterwards does not send it. -/
  sent : ∀ (first : List Event) (post : Nat) (e : Token.Event) (middle : List Event) (request : Request)
    (rest : List Event), after = first ++ .begins post e :: (middle ++ .sends post request :: rest) →
      e.tenant.tenantId = tenant.tenantId → ("access_token", text) ∉ request.query

theorem eq_of_required {tenant : Credentials} {outcome : Except Error (Option String)} {token : String}
    (granted : Token.Schedule.required tenant outcome = .ok token) : outcome = .ok (some token) := by
  match outcome with
  | .ok (some _) => rw [Except.ok.inj granted]
  | .ok none => cases granted
  | .error _ => cases granted

namespace Traffic

section

variable {start s a b t : Traffic} {before after events : List Event} {drop : Token.Event} {tenant : Credentials}
  {entry : KeyValue.Entry} {call : Nat} {text : String}

/-- A call for a token that gives one has it. -/
theorem carries_of_required {token : String} {outcome : Except Error (Option String)}
    (ended : s.outcome? call = some outcome) (granted : Token.Schedule.required tenant outcome = .ok token) :
    ∃ c, s.tokens.callers[call]? = some c ∧ c.stage.carried? = some token := by
  obtain ⟨c, found, finished⟩ := Option.bind_eq_some_iff.mp ended
  refine ⟨c, found, ?_⟩
  rw [eq_of_required granted] at finished
  cases stage : c.stage <;> simp_all [Token.Stage.outcome?, Token.Stage.carried?]

theorem Next.calls_next (next : a.Next (.calls drop) b) : a.tokens.Next drop b.tokens := by
  cases next
  assumption

/-- What is there when a token has just been thrown away: all that happened was a run of calls for tokens, the token had
been in the store, and is not any more. -/
structure Dropped (tenant : Credentials) (start : Traffic) (past : List Token.Event) (text : String) (b : Traffic) :
    Prop where
  run : start.tokens.Run past b.tokens
  idle : start.tokens.callers = []
  spent : Token.Traffic.IsSpent tenant start.tokens past text
  gone : b.tokens.store.entries.get? tenant.accessTokenKey = none

/-- A token that is thrown away was in the store until then, after nothing but calls for tokens. -/
theorem Run.dropped (past : start.Run before a) (next : a.Next (.calls drop) b) (idle : start.tokens.callers = [])
    (drops : drop.Drops tenant) (removed : a.tokens.store.entries.get? tenant.accessTokenKey = some entry) :
    Dropped tenant start (calls before ++ [drop]) entry.value b where
  run := past.calls_run.next next.calls_next
  idle := idle
  spent := (past.calls_run.isSpent_of_entry removed).append [drop]
  gone := by
    have key := Credentials.accessTokenKey_inj.mpr drops.1
    exact next.calls_next.entry_of_clears (.inr ⟨⟨rfl, drops.2⟩, key.symm⟩)

/-- No call to the platform that begins after a token was thrown away sends the token. -/
theorem Dropped.notMem_query {past : List Token.Event} {first middle rest : List Event} {post : Nat} {e : Token.Event}
    {request : Request} (dropped : Dropped tenant start past text b)
    (run : b.Run (first ++ .begins post e :: (middle ++ .sends post request :: rest)) t)
    (anew : Token.Traffic.IssuesAnew tenant start.tokens
      (past ++ calls (first ++ .begins post e :: (middle ++ .sends post request :: rest))))
    (own : e.tenant.tenantId = tenant.tenantId) : ("access_token", text) ∉ request.query := by
  obtain ⟨x, y, toBegin, begins, future⟩ := run.split_cons
  obtain ⟨z, w, between, sends, _⟩ := future.split_cons
  obtain ⟨new, ⟨q, posted, _, call⟩, c, found, ofTenant⟩ := begins.posting_of_begins
  obtain ⟨r, outcome, token, posted', ended, granted, query⟩ := sends.token_of_sends
  obtain ⟨r', posted'', _, call'⟩ := between.post_kept posted
  obtain rfl := Option.some.inj (posted'.symm.trans posted'')
  obtain ⟨d, there, carries⟩ := carries_of_required ended granted
  rw [call', call] at there
  obtain ⟨d', there', sameTenant⟩ := between.calls_run.caller_keeps (p := fun tenant _ => tenant = e.tenant)
    (fun _ _ _ _ _ => id) found ofTenant
  obtain rfl := Option.some.inj (there.symm.trans there')
  intro member
  obtain rfl : token = text := by simpa [query, eq_comm] using member
  have sinceDrop : b.tokens.Run (calls (first ++ .begins post e :: middle)) z.tokens :=
    (toBegin.append ((Run.start.next begins).append between)).calls_run
  have anewBefore : Token.Traffic.IssuesAnew tenant start.tokens
      (past ++ calls (first ++ .begins post e :: middle)) := by
    have whole : Token.Traffic.IssuesAnew tenant start.tokens
        ((past ++ calls (first ++ .begins post e :: middle)) ++ calls (.sends post request :: rest)) := by
      rwa [List.append_assoc, ← calls_append, List.append_assoc]
    exact whole.of_append
  -- the call for the token would have had it when it was thrown away, but there was no such call then
  obtain ⟨_, before, _⟩ := dropped.run.carried_of_dropped sinceDrop dropped.idle anewBefore dropped.spent dropped.gone
    there (by rw [sameTenant, own]) carries
  obtain ⟨_, still, _⟩ := toBegin.calls_run.rank_le before
  rw [new, List.getElem?_length] at still
  cases still

/-- Once a rejected token is thrown away, it is not stored any more, it is not what replaces it, and no call to the
platform that begins later sends it. -/
theorem Run.staysAway (past : start.Run before a) (next : a.Next (.calls drop) b) (future : b.Run after t)
    (idle : start.tokens.callers = [])
    (anew : Token.Traffic.IssuesAnew tenant start.tokens (calls (before ++ .calls drop :: after)))
    (drops : drop.Drops tenant) (removed : a.tokens.store.entries.get? tenant.accessTokenKey = some entry) :
    StaysAway tenant entry.value drop after t := by
  have dropped := past.dropped next idle drops removed
  have anew' : Token.Traffic.IssuesAnew tenant start.tokens ((calls before ++ [drop]) ++ calls after) := by
    simpa [calls, Event.call?] using anew
  refine ⟨fun e member token stores => ?_, fun outcome token ended granted same => ?_, ?_⟩
  · exact dropped.run.not_stored_of_isSpent future.calls_run idle anew' dropped.spent member stores
  · obtain ⟨own, _, deed⟩ := drops
    obtain ⟨_, answer, c, _, _, _, stage, found, ofTenant, locking⟩ := next.calls_next.caller_of_steps deed
    obtain ⟨d, there, carries⟩ := carries_of_required ended granted
    obtain ⟨d', there', sameTenant⟩ := future.calls_run.caller_keeps (p := fun tenant _ => tenant = drop.tenant)
      (fun _ _ _ _ _ => id) found ofTenant
    obtain rfl := Option.some.inj (there.symm.trans there')
    have ofTenant' : d.tenant.tenantId = tenant.tenantId := by rw [sameTenant, own]
    obtain ⟨c', found', carried⟩ := dropped.run.carried_of_dropped future.calls_run idle anew' dropped.spent
      dropped.gone there ofTenant' (same ▸ carries)
    obtain rfl := Option.some.inj (found.symm.trans found')
    rw [locking, stage] at carried
    cases carried
  · rintro first post e middle request rest rfl own
    exact dropped.notMem_query future anew' own

end

namespace Replaced

def tenant : Credentials := ⟨"wx1", "", "", "", ""⟩

def token : Token.Issued := ⟨"fresh", 7200000⟩

def stale : KeyValue.Entry := ⟨"stale", some 7200000⟩

def start : Traffic := ⟨⟨0, KeyValue.empty.set 0 tenant.accessTokenKey "stale" (some 7200000), []⟩, []⟩

def events : List Token.Event :=
  [⟨0, 0, tenant, .begins .reading⟩, ⟨0, 0, tenant, .steps .reading (.measuring "stale")⟩,
    ⟨0, 0, tenant, .steps (.measuring "stale") (.finished (.ok (some "stale")))⟩,
    ⟨0, 1, tenant, .begins (.locking true)⟩, ⟨0, 1, tenant, .steps (.locking true) .asking⟩,
    ⟨0, 1, tenant, .steps .asking (.awaiting (.ok token))⟩, ⟨0, 2, tenant, .begins .dropping⟩]

def drop : Token.Event := ⟨0, 2, tenant, .steps .dropping (.locking true)⟩

def loss : Token.Event := ⟨0, 2, tenant, .steps (.locking true) (.polling 9)⟩

def later : List Token.Event :=
  [⟨0, 3, tenant, .steps .reading (.locking true)⟩, ⟨0, 3, tenant, .steps (.locking true) (.polling 9)⟩,
    ⟨500, 2, tenant, .steps (.polling 9) (.polling 8)⟩, ⟨500, 3, tenant, .steps (.polling 9) (.polling 8)⟩,
    ⟨700, 1, tenant, .steps (.awaiting (.ok token)) (.storing token)⟩,
    ⟨700, 1, tenant, .steps (.storing token) (.releasing (.ok "fresh"))⟩,
    ⟨700, 1, tenant, .steps (.releasing (.ok "fresh")) (.finished (.ok (some "fresh")))⟩,
    ⟨1000, 2, tenant, .steps (.polling 8) (.finished (.ok (some "fresh")))⟩,
    ⟨1000, 3, tenant, .steps (.polling 8) (.finished (.ok (some "fresh")))⟩]

def posted : Post := .typing "user"

def request : Request := apiRequest posted.path "fresh" posted.body

def before : List Event := events.map .calls

def after : List Event :=
  [.calls loss] ++ .begins 0 ⟨0, 3, tenant, .begins .reading⟩ :: (later.map .calls ++ .sends 0 request :: [])

def answer : Token.Answer := ⟨700, .ok token⟩

def choices : List (Nat × Token.Choice) :=
  [(0, .begin tenant .reading), (0, .step 0 answer), (0, .step 0 answer), (0, .begin tenant (.locking true)),
    (0, .step 1 answer), (0, .step 1 answer), (0, .begin tenant .dropping)]

def choicesLater : List (Nat × Token.Choice) :=
  [(0, .step 3 answer), (0, .step 3 answer), (500, .step 2 answer), (500, .step 3 answer), (700, .step 1 answer),
    (700, .step 1 answer), (700, .step 1 answer), (1000, .step 2 answer), (1000, .step 3 answer)]

theorem exists_run : ∃ a b t, start.Run before a ∧ a.Next (.calls drop) b ∧ b.Run after t ∧
    a.tokens.store.entries.get? tenant.accessTokenKey = some stale ∧ t.outcome? 2 = some (.ok (some "fresh")) := by
  have played : ∃ a b c d e, start.tokens.replay choices = some (events, a) ∧
      a.choose? 0 (.step 2 answer) = some (drop, b) ∧ b.choose? 0 (.step 2 answer) = some (loss, c) ∧
      c.choose? 0 (.begin tenant .reading) = some (⟨0, c.callers.length, tenant, .begins .reading⟩, d) ∧
      c.callers.length = 3 ∧ d.replay choicesLater = some (later, e) ∧
      a.store.entries.get? tenant.accessTokenKey = some stale ∧
      (e.callers[3]?.bind fun c => c.stage.outcome?) = some (.ok (some "fresh")) ∧
      (e.callers[2]?.bind fun c => c.stage.outcome?) = some (.ok (some "fresh")) :=
    ⟨_, _, _, _, _, rfl, rfl, rfl, rfl, rfl, rfl, rfl, rfl, rfl⟩
  obtain ⟨a, b, c, d, e, past, drops, loses, reads, three, future, had, gets, replaced⟩ := played
  have begins := Next.begin (s := ⟨c, []⟩) (p := posted) (Token.Traffic.next_of_choose? reads)
  rw [three] at begins
  have sends := @Next.send ⟨e, [⟨tenant, posted, 3, .fetching⟩]⟩ 0 _ _ _ rfl rfl gets rfl
  have first := Run.start.next (Next.call (s := ⟨b, []⟩) (Token.Traffic.next_of_choose? loses))
  have second := (first.next begins).append ((Run.of_calls (Token.Traffic.replay_run future) _).next sends)
  refine ⟨⟨a, []⟩, ⟨b, []⟩, _, Run.of_calls (Token.Traffic.replay_run past) [],
    .call (Token.Traffic.next_of_choose? drops), second, had, replaced⟩

theorem calls_eq : calls (before ++ .calls drop :: after) =
    events ++ drop :: loss :: ⟨0, 3, tenant, .begins .reading⟩ :: later := rfl

theorem issuesAnew : Token.Traffic.IssuesAnew tenant start.tokens (calls (before ++ .calls drop :: after)) := by
  rw [calls_eq]
  refine ⟨by simp [events, drop, loss, later, Token.Event.Asks], fun e member issued entry asks found => ?_⟩
  have only : ∀ e ∈ events ++ drop :: loss :: ⟨0, 3, tenant, .begins .reading⟩ :: later, ∀ issued,
      e.Asks tenant issued → token = issued := by
    simp [events, drop, loss, later, Token.Event.Asks]
  obtain rfl := only e member issued asks
  obtain rfl : stale = entry := Option.some.inj found
  decide

end Replaced

/-- A call throws a token away while another one already waits for the issuer, which takes a while. Both that call and
a call to the platform that begins now come to wait for the new token. -/
theorem Run.staysAway_of_replaced : ∃ a b t, Replaced.start.Run Replaced.before a ∧ a.Next (.calls Replaced.drop) b ∧
    b.Run Replaced.after t ∧ t.outcome? 2 = some (.ok (some "fresh")) ∧
    StaysAway Replaced.tenant "stale" Replaced.drop Replaced.after t := by
  obtain ⟨a, b, t, past, next, future, removed, replaced⟩ := Replaced.exists_run
  exact ⟨a, b, t, past, next, future, replaced,
    past.staysAway next future rfl Replaced.issuesAnew ⟨rfl, _, rfl⟩ removed⟩

end Traffic
end ReplyGateway.Platform
