import Mathlib
import ReplyGateway.Proofs.Token.Renewal

namespace ReplyGateway.Token

theorem lockLifetime_le : lockLifetime ≤ maxLifetime := by decide

theorem expiry_of_representable {now lifetime : Nat} (representable : now + maxLifetime < KeyValue.horizon)
    (short : lifetime ≤ maxLifetime) : KeyValue.expiry now lifetime = some (now + lifetime) :=
  if_pos (Nat.lt_of_le_of_lt (Nat.add_le_add_left short now) representable)

namespace Event

/-- A call throws away the token of a tenant. -/
def Drops (tenant : Credentials) (e : Event) : Prop :=
  e.tenant.tenantId = tenant.tenantId ∧ ∃ after, e.deed = .steps .dropping after

/-- A call puts an entry under a key: the token of its tenant, or the mark of a lock that it has won. -/
inductive Writes (e : Event) (key : String) (entry : KeyValue.Entry) : Prop
  | token (token : Issued) : e.Stores e.tenant token → key = e.tenant.accessTokenKey →
      entry = ⟨token.value, KeyValue.expiry e.instant (min token.lifetime maxLifetime)⟩ → Writes e key entry
  | lock : e.Wins e.tenant → key = e.tenant.lockKey →
      entry = ⟨lockMark, KeyValue.expiry e.instant lockLifetime⟩ → Writes e key entry

/-- A call takes away what is under a key. -/
def Clears (e : Event) (key : String) : Prop :=
  (e.Releases ∧ key = e.tenant.lockKey) ∨ (e.Drops e.tenant ∧ key = e.tenant.accessTokenKey)

/-- A call writes or clears what is under a key. -/
def Touches (e : Event) (key : String) : Prop := (∃ entry, e.Writes key entry) ∨ e.Clears key

end Event

namespace Traffic

section

variable {start s t u : Traffic} {e : Event} {events : List Event} {tenant : Credentials} {key : String}
  {entry : KeyValue.Entry} {now : Nat}

theorem Next.wins_of_tries (next : s.Next e u) (tries : e.Tries tenant)
    (free : s.store.live? e.instant tenant.lockKey = none) : e.Wins tenant := by
  obtain ⟨own, waits, after, deed⟩ := tries
  obtain ⟨c, answer, _, _, ofTenant, _, stage, _⟩ := next.caller_of_steps deed
  have lock : e.tenant.lockKey = tenant.lockKey := Credentials.lockKey_inj.mpr own
  refine ⟨own, waits, ?_⟩
  rw [deed, stage]
  simp [Stage.move, Stage.step, KeyValue.setIfAbsent?, lock, free]

/-- A token that is stored is kept for its lifetime, but not for longer than anything is kept. -/
theorem Next.entry_of_stores {token : Issued} (next : s.Next e u) (stores : e.Stores tenant token) :
    u.store.entries.get? tenant.accessTokenKey =
      some ⟨token.value, KeyValue.expiry e.instant (min token.lifetime maxLifetime)⟩ := by
  obtain ⟨own, after, deed⟩ := stores
  have key : e.tenant.accessTokenKey = tenant.accessTokenKey := Credentials.accessTokenKey_inj.mpr own
  cases next with
  | begin => cases deed
  | step =>
    obtain ⟨storing, _⟩ := Deed.steps.inj deed
    simp [advance, storing, Stage.move, Stage.step, KeyValue.set, ← key]
  | cancel => cases deed

theorem Next.entry_of_wins (next : s.Next e u) (wins : e.Wins tenant) :
    u.store.entries.get? tenant.lockKey = some ⟨lockMark, KeyValue.expiry e.instant lockLifetime⟩ := by
  rcases next.lock_cases tenant with ⟨_, _, held⟩ | ⟨notWins, _⟩ | ⟨notWins, _⟩
  · exact held
  · exact absurd wins notWins
  · exact absurd wins notWins

theorem Next.entry_of_clears (next : s.Next e u) (clears : e.Clears key) : u.store.entries.get? key = none := by
  rcases clears with ⟨⟨outcome, after, deed⟩, rfl⟩ | ⟨⟨_, after, deed⟩, rfl⟩
  · cases next with
    | begin => cases deed
    | step =>
      obtain ⟨releasing, _⟩ := Deed.steps.inj deed
      simp [advance, releasing, Stage.move, Stage.step, KeyValue.delete]
    | cancel => cases deed
  · cases next with
    | begin => cases deed
    | step =>
      obtain ⟨dropping, _⟩ := Deed.steps.inj deed
      simp [advance, dropping, Stage.move, Stage.step, KeyValue.delete]
    | cancel => cases deed

theorem Next.entry_of_untouched (next : s.Next e u) (untouched : ¬ e.Touches key) :
    u.store.entries.get? key = s.store.entries.get? key := by
  cases next with
  | begin => rfl
  | cancel => rfl
  | @step call c answer instant found =>
    by_cases lock : c.tenant.lockKey = key
    · subst lock
      rcases Stage.lock_move_cases answer c.tenant instant s.store c.stage with
        ⟨⟨waits, locking⟩, _, asking, _⟩ | ⟨⟨outcome, releasing⟩, _, _⟩ | ⟨_, _, _, kept⟩
      · exact absurd (.inl ⟨_, .lock ⟨rfl, waits, by rw [asking, locking]⟩ rfl rfl⟩) untouched
      · exact absurd (.inr (.inl ⟨⟨outcome, _, by rw [releasing]⟩, rfl⟩)) untouched
      · exact kept
    · by_cases token : c.tenant.accessTokenKey = key
      · subst token
        rcases Stage.token_move_cases answer c.tenant instant s.store c.stage with
          ⟨issued, storing, _⟩ | dropping | kept
        · exact absurd (.inl ⟨_, .token issued ⟨rfl, _, by rw [storing]⟩ rfl rfl⟩) untouched
        · exact absurd (.inr (.inr ⟨⟨rfl, _, by rw [dropping]⟩, rfl⟩)) untouched
        · exact kept
      · exact Stage.entries_move_of_ne answer c.tenant instant s.store c.stage token lock

/-- What an event does to the entry under a key: a call writes one, or takes it away, or it stays as it is. -/
theorem Next.entry_cases (next : s.Next e u) (key : String) :
    (∃ entry, e.Writes key entry ∧ u.store.entries.get? key = some entry) ∨
      (e.Clears key ∧ u.store.entries.get? key = none) ∨
      (¬ e.Touches key ∧ u.store.entries.get? key = s.store.entries.get? key) := by
  by_cases touches : e.Touches key
  · rcases touches with ⟨entry, writes⟩ | clears
    · refine .inl ⟨entry, writes, ?_⟩
      rcases writes with ⟨token, stores, rfl, rfl⟩ | ⟨wins, rfl, rfl⟩
      · exact next.entry_of_stores stores
      · exact next.entry_of_wins wins
    · exact .inr (.inl ⟨clears, next.entry_of_clears clears⟩)
  · exact .inr (.inr ⟨touches, next.entry_of_untouched touches⟩)

/-- What an event does to the token of a tenant: a call stores one, or throws it away, or it stays as it is. -/
theorem Next.token_entry_cases (next : s.Next e u) (tenant : Credentials) :
    (∃ token, e.Stores tenant token) ∨ e.Drops tenant ∨
      u.store.entries.get? tenant.accessTokenKey = s.store.entries.get? tenant.accessTokenKey := by
  rcases next.entry_cases tenant.accessTokenKey with
    ⟨_, ⟨token, stores, same, _⟩ | ⟨_, same, _⟩, _⟩ | ⟨⟨_, same⟩ | ⟨drops, same⟩, _⟩ | ⟨_, kept⟩
  · exact .inl ⟨token, (Credentials.accessTokenKey_inj.mp same).symm, stores.2⟩
  · exact absurd same (Credentials.accessTokenKey_ne_lockKey _ _)
  · exact absurd same (Credentials.accessTokenKey_ne_lockKey _ _)
  · exact .inr (.inl ⟨(Credentials.accessTokenKey_inj.mp same).symm, drops.2⟩)
  · exact .inr (.inr kept)

/-- An entry is what was written last under its key. -/
theorem Run.entry_origin (run : start.Run events t) (absent : start.store.entries.get? key = none)
    (found : t.store.entries.get? key = some entry) :
    ∃ (before : List Event) (e : Event) (after : List Event), events = before ++ e :: after ∧
      e.Writes key entry ∧ ∀ later ∈ after, ¬ later.Touches key := by
  induction run with
  | start =>
    rw [absent] at found
    cases found
  | @next events s u e run next ih =>
    rcases next.entry_cases key with ⟨_, writes, written⟩ | ⟨_, gone⟩ | ⟨untouched, same⟩
    · obtain rfl := Option.some.inj (written.symm.trans found)
      exact ⟨events, e, [], rfl, writes, by simp⟩
    · rw [gone] at found
      cases found
    · obtain ⟨before, writer, after, rfl, writes, since⟩ := ih (same ▸ found)
      refine ⟨before, writer, after ++ [e], by simp, writes, fun later member => ?_⟩
      rcases List.mem_append.1 member with old | new
      · exact since later old
      · exact List.mem_singleton.1 new ▸ untouched

/-- A live lock was won by a call that has not given it back, and it is not yet over. -/
theorem Run.holder_of_live (run : start.Run events t) (absent : start.store.entries.get? tenant.lockKey = none)
    (clock : ∀ e ∈ events, e.instant + maxLifetime < KeyValue.horizon)
    (live : (t.store.live? now tenant.lockKey).isSome = true) :
    ∃ (before : List Event) (win : Event) (after : List Event), events = before ++ win :: after ∧ win.Wins tenant ∧
      now < win.instant + lockLifetime ∧ (∀ e ∈ after, e.call = win.call → ¬ e.Releases) ∧
        ∀ e ∈ after, ¬ e.Wins tenant := by
  obtain ⟨entry, there⟩ := Option.isSome_iff_exists.1 live
  obtain ⟨found, early⟩ := Option.filter_eq_some_iff.1 there
  obtain ⟨before, win, after, rfl, writes, since⟩ := run.entry_origin absent found
  rcases writes with ⟨_, _, same, _⟩ | ⟨wins, same, rfl⟩
  · exact absurd same.symm (Credentials.accessTokenKey_ne_lockKey _ _)
  · have own : win.tenant.tenantId = tenant.tenantId := (Credentials.lockKey_inj.mp same).symm
    have wins' : win.Wins tenant := ⟨own, wins.2⟩
    have ends := expiry_of_representable (clock win (by simp)) lockLifetime_le
    rw [KeyValue.Entry.isLive, ends, Option.all_some, decide_eq_true_eq] at early
    refine ⟨before, win, after, rfl, wins', early, fun e member same' releases => ?_, fun e member won => ?_⟩
    · obtain ⟨_, _, _, now, future⟩ := run.split_cons
      have ofTenant := future.tenant_of_wins now wins' member same'
      exact since e member (.inr (.inl ⟨releases, Credentials.lockKey_inj.mpr ofTenant.symm⟩))
    · exact since e member (.inl ⟨_, .lock ⟨rfl, won.2⟩ (Credentials.lockKey_inj.mpr won.1.symm) rfl⟩)

end

/-- What calls have put into a store is over soon, however they end. -/
structure LeavesLeases (events : List Event) (t : Traffic) : Prop where
  /-- An entry expires, a token a day and a lock ten seconds after it was written at the latest. -/
  expires : ∀ key entry, t.store.entries.get? key = some entry →
    ∃ (before : List Event) (e : Event) (after : List Event), events = before ++ e :: after ∧
      (∀ later ∈ after, ¬ later.Touches key) ∧
      ∃ expiresAt, entry.expiresAt = some expiresAt ∧
        ((∃ token, e.Stores e.tenant token ∧ key = e.tenant.accessTokenKey ∧ entry.value = token.value ∧
            expiresAt ≤ e.instant + maxLifetime) ∨
          (e.Wins e.tenant ∧ key = e.tenant.lockKey ∧ expiresAt ≤ e.instant + lockLifetime))
  /-- Whoever has a live lock won it less than ten seconds ago and has not given it back. -/
  held : ∀ tenant now, (t.store.live? now tenant.lockKey).isSome = true →
    ∃ (before : List Event) (win : Event) (after : List Event), events = before ++ win :: after ∧ win.Wins tenant ∧
      now < win.instant + lockLifetime ∧ (∀ e ∈ after, e.call = win.call → ¬ e.Releases) ∧ ∀ e ∈ after, ¬ e.Wins tenant
  /-- Who tries for a lock ten seconds after it was won wins it, whatever became of its holder. -/
  recovers : ∀ (tenant : Credentials) (before : List Event) (win : Event) (middle : List Event) (attempt : Event)
    (after : List Event), events = before ++ win :: (middle ++ attempt :: after) → win.Wins tenant →
      attempt.Tries tenant → win.instant + lockLifetime ≤ attempt.instant → (∀ e ∈ middle, ¬ e.Wins tenant) →
        attempt.Wins tenant

/-- A lock whose holder has stopped is won again as soon as it has expired, and no token stays for longer than a day. -/
theorem Run.leavesLeases {start t : Traffic} {events : List Event} (run : start.Run events t)
    (vacant : start.store = .empty) (clock : ∀ e ∈ events, e.instant + maxLifetime < KeyValue.horizon) :
    LeavesLeases events t := by
  have absent (key : String) : start.store.entries.get? key = none := by
    rw [vacant]
    rfl
  refine ⟨fun key entry found => ?_, fun tenant now live => run.holder_of_live (absent _) clock live, ?_⟩
  · obtain ⟨before, e, after, rfl, writes, since⟩ := run.entry_origin (absent key) found
    have representable := clock e (by simp)
    refine ⟨before, e, after, rfl, since, ?_⟩
    rcases writes with ⟨token, stores, same, rfl⟩ | ⟨wins, same, rfl⟩
    · have short : min token.lifetime maxLifetime ≤ maxLifetime := Nat.min_le_right ..
      have ends := expiry_of_representable representable short
      exact ⟨_, ends, .inl ⟨token, stores, same, rfl, Nat.add_le_add_left short _⟩⟩
    · have ends := expiry_of_representable representable lockLifetime_le
      exact ⟨e.instant + lockLifetime, by rw [ends], .inr ⟨wins, same, Nat.le_refl _⟩⟩
  · rintro tenant before win middle attempt after rfl wins tries late alone
    have run' : start.Run ((before ++ win :: middle) ++ attempt :: after) t := by simpa using run
    obtain ⟨a, b, past, next, _⟩ := run'.split_cons
    cases live : a.store.live? attempt.instant tenant.lockKey with
    | none => exact next.wins_of_tries tries live
    | some entry =>
      -- else some call has won the lock less than ten seconds ago, which is after the first one and before the attempt
      have clockBefore : ∀ e ∈ before ++ win :: middle, e.instant + maxLifetime < KeyValue.horizon := fun e member =>
        clock e (by simpa using List.mem_append_left (attempt :: after) member)
      obtain ⟨first, holder, rest, split, won, early, _⟩ :=
        past.holder_of_live (absent _) clockBefore (Option.isSome_iff_exists.2 ⟨entry, live⟩)
      obtain ⟨m, n, earlier, now, _⟩ := past.split_cons
      have member : holder ∈ before ++ win :: middle := split ▸ by simp
      rcases List.mem_append.1 member with old | among
      · have order := Nat.le_trans (earlier.instant_le old) now.now_le
        omega
      · rcases List.mem_cons.1 among with rfl | new
        · omega
        · exact absurd won (alone holder new)

namespace Abandoned

def tenant : Credentials := ⟨"wx1", "", "", "", ""⟩

def token : Issued := ⟨"token", 0x10000000000000000⟩

def before : List Event := [⟨0, 0, tenant, .begins (.locking true)⟩]

def win : Event := ⟨0, 0, tenant, .steps (.locking true) .asking⟩

def middle : List Event :=
  [⟨0, 0, tenant, .steps .asking (.awaiting (.ok token))⟩, ⟨5, 0, tenant, .cancelled⟩,
    ⟨9999, 1, tenant, .begins (.locking false)⟩, ⟨9999, 1, tenant, .steps (.locking false) (.finished (.ok none))⟩,
    ⟨10000, 2, tenant, .begins (.locking true)⟩]

def attempt : Event := ⟨10000, 2, tenant, .steps (.locking true) .asking⟩

def after : List Event :=
  [⟨10000, 2, tenant, .steps .asking (.awaiting (.ok token))⟩,
    ⟨10001, 2, tenant, .steps (.awaiting (.ok token)) (.storing token)⟩,
    ⟨10001, 2, tenant, .steps (.storing token) (.releasing (.ok "token"))⟩]

def choices : List (Nat × Choice) :=
  let slow : Answer := ⟨60000, .ok token⟩
  let quick : Answer := ⟨1, .ok token⟩
  [(0, .begin tenant (.locking true)), (0, .step 0 slow), (0, .step 0 slow), (5, .cancel 0),
    (9999, .begin tenant (.locking false)), (9999, .step 1 slow), (10000, .begin tenant (.locking true)),
    (10000, .step 2 quick), (10000, .step 2 quick), (10001, .step 2 quick), (10001, .step 2 quick)]

def entry : KeyValue.Entry := ⟨"token", some 86410001⟩

theorem exists_run : ∃ t, (⟨0, .empty, []⟩ : Traffic).Run (before ++ win :: (middle ++ attempt :: after)) t ∧
    t.store.entries.get? tenant.accessTokenKey = some entry ∧
      (t.store.live? 20000 tenant.lockKey).isSome = false ∧ (t.store.live? 19999 tenant.lockKey).isSome = true := by
  have played : ∃ t, (⟨0, .empty, []⟩ : Traffic).replay choices =
      some (before ++ win :: (middle ++ attempt :: after), t) ∧
        t.store.entries.get? tenant.accessTokenKey = some entry ∧
        (t.store.live? 20000 tenant.lockKey).isSome = false ∧ (t.store.live? 19999 tenant.lockKey).isSome = true :=
    ⟨_, rfl, rfl, rfl, rfl⟩
  obtain ⟨t, played, rest⟩ := played
  exact ⟨t, replay_run played, rest⟩

end Abandoned

/-- A call wins the lock and is cancelled while it waits for the issuer. A second call comes too early; a third one
wins the lock when it expires, and gets a token that is good for longer than anything is kept. -/
theorem Run.leavesLeases_of_abandoned : ∃ t, (⟨0, .empty, []⟩ : Traffic).Run
    (Abandoned.before ++ Abandoned.win :: (Abandoned.middle ++ Abandoned.attempt :: Abandoned.after)) t ∧
      Abandoned.attempt.Wins Abandoned.tenant ∧
      t.store.entries.get? Abandoned.tenant.accessTokenKey = some Abandoned.entry ∧
      ∃ e expiresAt, Abandoned.entry.expiresAt = some expiresAt ∧ expiresAt ≤ e.instant + maxLifetime ∧
        e ∈ Abandoned.before ++ Abandoned.win :: (Abandoned.middle ++ Abandoned.attempt :: Abandoned.after) := by
  obtain ⟨t, run, found, _, _⟩ := Abandoned.exists_run
  have clock : ∀ e ∈ Abandoned.before ++ Abandoned.win :: (Abandoned.middle ++ Abandoned.attempt :: Abandoned.after),
      e.instant + maxLifetime < KeyValue.horizon := by
    decide
  have leases := run.leavesLeases rfl clock
  have alone : ∀ e ∈ Abandoned.middle, ¬ e.Wins Abandoned.tenant := by simp [Abandoned.middle, Event.Wins]
  have wins := leases.recovers Abandoned.tenant _ _ _ _ _ rfl ⟨rfl, true, rfl⟩ ⟨rfl, true, _, rfl⟩ (by decide) alone
  obtain ⟨before, e, after, split, _, expiresAt, ends, written | ⟨_, same, _⟩⟩ := leases.expires _ _ found
  · obtain ⟨_, _, _, _, soon⟩ := written
    exact ⟨t, run, wins, found, e, expiresAt, ends, soon, split ▸ by simp⟩
  · exact absurd same (Credentials.accessTokenKey_ne_lockKey _ _)

end Traffic
end ReplyGateway.Token
