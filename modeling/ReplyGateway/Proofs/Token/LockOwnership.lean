import Mathlib
import ReplyGateway.Proofs.Token.Replay

namespace ReplyGateway.Token.Traffic

section

variable {start s t u : Traffic} {e win again : Event} {events before middle after : List Event}
  {tenant : Credentials} {call : Nat}

theorem Next.tenant_of_call {c : Caller} (next : s.Next e u) (found : s.callers[e.call]? = some c) :
    e.tenant = c.tenant := by
  cases next with
  | begin => simp at found
  | step found' => rw [Option.some.inj (found'.symm.trans found)]
  | cancel found' => rw [Option.some.inj (found'.symm.trans found)]

/-- Who holds the lock has won it. -/
theorem Run.won_of_holds (run : start.Run events s) (idle : start.callers = []) (holds : s.Holds tenant call) :
    ∃ w ∈ events, w.call = call ∧ w.Wins tenant := by
  induction run with
  | start =>
    obtain ⟨c, found, _⟩ := holds
    simp [idle] at found
  | next run next ih =>
    rcases next.holds_cases holds with ⟨wins, own⟩ | ⟨earlier, _⟩
    · exact ⟨_, List.mem_append_right _ (List.mem_singleton_self _), own, wins⟩
    · obtain ⟨w, member, own, wins⟩ := ih earlier
      exact ⟨w, List.mem_append_left _ member, own, wins⟩

/-- After a call has won the lock and before the lock expires: it is still there and nobody has won it again, or
some other call that had won it before has given it back. -/
theorem Run.kept_or_released (past : start.Run before s) (idle : start.callers = []) (next : s.Next win t)
    (wins : win.Wins tenant) (run : t.Run middle u) (keeps : ∀ e ∈ middle, e.call = win.call → ¬ e.Releases)
    (early : ∀ e ∈ middle, e.instant < win.instant + lockLifetime) :
    ((∀ e ∈ middle, ¬ e.Wins tenant) ∧
        u.store.entries.get? tenant.lockKey = some ⟨lockMark, KeyValue.expiry win.instant lockLifetime⟩) ∨
      ∃ r ∈ middle, r.Releases ∧ r.tenant.tenantId = tenant.tenantId ∧ r.call ≠ win.call ∧
        ∃ w ∈ before, w.call = r.call ∧ w.Wins tenant := by
  induction run with
  | start =>
    left
    refine ⟨fun _ member => absurd member List.not_mem_nil, ?_⟩
    rcases next.lock_cases tenant with ⟨_, _, entry⟩ | ⟨notWins, _⟩ | ⟨notWins, _⟩
    · exact entry
    · exact absurd wins notWins
    · exact absurd wins notWins
  | @next middle u v e run last ih =>
    have earlier := ih (fun e member => keeps e (List.mem_append_left _ member))
      (fun e member => early e (List.mem_append_left _ member))
    have member : e ∈ middle ++ [e] := List.mem_append_right _ (List.mem_singleton_self _)
    rcases earlier with ⟨noWin, entry⟩ | ⟨r, among, rest⟩
    · rcases last.lock_cases tenant with ⟨_, free, _⟩ | ⟨_, holds, releases⟩ | ⟨notWins, same⟩
      · rw [KeyValue.live?_of_early entry (early e member)] at free
        cases free
      · right
        have other : e.call ≠ win.call := fun same => keeps e member same releases
        obtain ⟨w, among, own, won⟩ := ((past.next next).append run).won_of_holds idle holds
        obtain ⟨c, found, _, ofTenant, _⟩ := id holds
        refine ⟨e, member, releases, by rw [last.tenant_of_call found, ofTenant], other, w, ?_, own, won⟩
        rcases List.mem_append.1 among with old | new
        · rcases List.mem_append.1 old with before | now
          · exact before
          · rw [List.mem_singleton.1 now] at own
            exact absurd own.symm other
        · exact absurd won (noWin w new)
      · left
        refine ⟨fun e' among => ?_, same.trans entry⟩
        rcases List.mem_append.1 among with old | new
        · exact noWin e' old
        · rwa [List.mem_singleton.1 new]
    · exact .inr ⟨r, List.mem_append_left _ among, rest⟩

/-- The lock of a tenant is won again before its time only after another call, which had won it earlier, gave it
back. -/
theorem Run.released_of_wins_again (run : start.Run (before ++ win :: (middle ++ again :: after)) t)
    (idle : start.callers = []) (wins : win.Wins tenant) (winsAgain : again.Wins tenant)
    (keeps : ∀ e ∈ middle, e.call = win.call → ¬ e.Releases) (early : again.instant < win.instant + lockLifetime) :
    ∃ r ∈ middle, r.Releases ∧ r.tenant.tenantId = tenant.tenantId ∧ r.call ≠ win.call ∧
      ∃ w ∈ before, w.call = r.call ∧ w.Wins tenant := by
  obtain ⟨a, b, past, first, rest⟩ := run.split_cons
  obtain ⟨c, d, between, second, _⟩ := rest.split_cons
  have soon : ∀ e ∈ middle, e.instant < win.instant + lockLifetime := fun e member =>
    Nat.lt_of_le_of_lt (Nat.le_trans (between.instant_le member) second.now_le) early
  rcases past.kept_or_released idle first wins between keeps soon with ⟨_, entry⟩ | released
  · rcases second.lock_cases tenant with ⟨_, free, _⟩ | ⟨notWins, _⟩ | ⟨notWins, _⟩
    · rw [KeyValue.live?_of_early entry early] at free
      cases free
    · exact absurd winsAgain notWins
    · exact absurd winsAgain notWins
  · exact released

/-- The lock of a tenant is won again before its time only if some call kept a lock for longer than it holds. -/
theorem Run.late_of_wins_again (run : start.Run (before ++ win :: (middle ++ again :: after)) t)
    (idle : start.callers = []) (wins : win.Wins tenant) (winsAgain : again.Wins tenant)
    (keeps : ∀ e ∈ middle, e.call = win.call → ¬ e.Releases) (early : again.instant < win.instant + lockLifetime) :
    ∃ w ∈ before ++ win :: middle, ∃ r ∈ before ++ win :: middle,
      r.call = w.call ∧ w.Wins tenant ∧ r.Releases ∧ w.instant + lockLifetime ≤ r.instant := by
  -- the call that gave the lock back too soon had won it earlier; unless it was late itself, the lock was won
  -- again before its time already then
  induction length : before.length using Nat.strong_induction_on generalizing before win middle again after with
  | h n ih =>
    obtain ⟨r, among, releases, _, _, w, earlier, own, won⟩ :=
      run.released_of_wins_again idle wins winsAgain keeps early
    by_cases late : w.instant + lockLifetime ≤ r.instant
    · exact ⟨w, List.mem_append_left _ earlier, r, List.mem_append_right _ (List.mem_cons_of_mem _ among), own.symm,
        won, releases, late⟩
    · obtain ⟨first, second, rfl⟩ := List.append_of_mem earlier
      obtain ⟨a, past, rest⟩ := run.split
      have keeps' : ∀ e ∈ second, e.call = w.call → ¬ e.Releases := by
        intro e member same released
        have ended := past.over_of_ends (List.mem_append_right _ (List.mem_cons_of_mem _ member)) (.inl released)
        exact rest.call_ne_of_over ended (e := r) (by simp [among]) (own.symm.trans same.symm)
      obtain ⟨b, next, rest⟩ := rest.uncons
      have order : win.instant ≤ r.instant := next.now_eq ▸ rest.le_instant (by simp [among])
      have shorter : first.length < n := by
        rw [← length, List.length_append, List.length_cons]
        omega
      have run' : start.Run (first ++ w :: (second ++ win :: (middle ++ again :: after))) t := by simpa using run
      obtain ⟨w', inW, r', inR, found⟩ := ih first.length shorter run' won wins keeps' (by omega) rfl
      exact ⟨w', List.mem_append_left _ inW, r', List.mem_append_left _ inR, found⟩

/-- In any run: if the lock of a tenant is won again before its time, and not after its winner gave it back, then a
call that had won it earlier gave it back in between, and some call kept a lock for longer than it holds. -/
theorem Run.wins_again (run : start.Run (before ++ win :: (middle ++ again :: after)) t) (idle : start.callers = [])
    (wins : win.Wins tenant) (winsAgain : again.Wins tenant) (keeps : ∀ e ∈ middle, e.call = win.call → ¬ e.Releases)
    (early : again.instant < win.instant + lockLifetime) :
    (∃ r ∈ middle, r.Releases ∧ r.tenant.tenantId = tenant.tenantId ∧ r.call ≠ win.call ∧
        ∃ w ∈ before, w.call = r.call ∧ w.Wins tenant) ∧
      ∃ w ∈ before ++ win :: middle, ∃ r ∈ before ++ win :: middle,
        r.call = w.call ∧ w.Wins tenant ∧ r.Releases ∧ w.instant + lockLifetime ≤ r.instant :=
  ⟨run.released_of_wins_again idle wins winsAgain keeps early, run.late_of_wins_again idle wins winsAgain keeps early⟩

end

namespace Outlived

def tenant : Credentials := ⟨"wx1", "", "", "", ""⟩

def token (value : String) : Issued := ⟨value, 7200000⟩

def before : List Event :=
  [⟨0, 0, tenant, .begins (.locking true)⟩, ⟨0, 0, tenant, .steps (.locking true) .asking⟩,
    ⟨0, 0, tenant, .steps .asking (.awaiting (.ok (token "first")))⟩, ⟨11000, 1, tenant, .begins (.locking true)⟩]

def win : Event := ⟨11000, 1, tenant, .steps (.locking true) .asking⟩

def middle : List Event :=
  [⟨11000, 1, tenant, .steps .asking (.awaiting (.ok (token "second")))⟩,
    ⟨15000, 0, tenant, .steps (.awaiting (.ok (token "first"))) (.storing (token "first"))⟩,
    ⟨15000, 0, tenant, .steps (.storing (token "first")) (.releasing (.ok "first"))⟩,
    ⟨15000, 0, tenant, .steps (.releasing (.ok "first")) (.finished (.ok (some "first")))⟩,
    ⟨16000, 2, tenant, .begins (.locking false)⟩]

def again : Event := ⟨16000, 2, tenant, .steps (.locking false) .asking⟩

def choices : List (Nat × Choice) :=
  let slow : Answer := ⟨15000, .ok (token "first")⟩
  let quick : Answer := ⟨8000, .ok (token "second")⟩
  [(0, .begin tenant (.locking true)), (0, .step 0 slow), (0, .step 0 slow),
    (11000, .begin tenant (.locking true)), (11000, .step 1 quick), (11000, .step 1 quick),
    (15000, .step 0 slow), (15000, .step 0 slow), (15000, .step 0 slow),
    (16000, .begin tenant (.locking false)), (16000, .step 2 quick)]

theorem exists_run : ∃ t, (⟨0, .empty, []⟩ : Traffic).Run (before ++ win :: (middle ++ again :: [])) t := by
  have played : ∃ t, (⟨0, .empty, []⟩ : Traffic).replay choices = some (before ++ win :: (middle ++ again :: []), t) :=
    ⟨_, rfl⟩
  exact played.imp fun t => replay_run

theorem keeps : ∀ e ∈ middle, e.call = win.call → ¬ e.Releases := by
  simp [middle, win, Event.Releases]

end Outlived

/-- Three renewals, of which the first one waits for the issuer for longer than its lock holds. When it gives the lock
back, the second one has the lock, and so the third one can win it, too. -/
theorem Run.wins_again_of_outlived : ∃ t, (⟨0, .empty, []⟩ : Traffic).Run
    (Outlived.before ++ Outlived.win :: (Outlived.middle ++ Outlived.again :: [])) t ∧
      Outlived.win.Wins Outlived.tenant ∧ Outlived.again.Wins Outlived.tenant ∧
      Outlived.again.instant < Outlived.win.instant + lockLifetime ∧
      ∃ r ∈ Outlived.middle, r.Releases ∧ r.call ≠ Outlived.win.call ∧
        ∃ w ∈ Outlived.before, w.call = r.call ∧ w.Wins Outlived.tenant := by
  obtain ⟨t, run⟩ := Outlived.exists_run
  have wins : Outlived.win.Wins Outlived.tenant := ⟨rfl, true, rfl⟩
  have winsAgain : Outlived.again.Wins Outlived.tenant := ⟨rfl, false, rfl⟩
  have early : Outlived.again.instant < Outlived.win.instant + lockLifetime := by decide
  obtain ⟨⟨r, among, releases, _, other, earlier⟩, _⟩ := run.wins_again rfl wins winsAgain Outlived.keeps early
  exact ⟨t, run, wins, winsAgain, early, r, among, releases, other, earlier⟩

/-- The lock of a tenant, once won, is not won again until its winner gives it back or it expires. -/
def KeepsLock (tenant : Credentials) (events : List Event) : Prop :=
  ∀ before win middle again after, events = before ++ win :: (middle ++ again :: after) → win.Wins tenant →
    again.Wins tenant → (∃ e ∈ middle, e.call = win.call ∧ e.Releases) ∨ win.instant + lockLifetime ≤ again.instant

/-- Who gives a lock back need not have it any more: the lock may have expired and another call may have won it
since. -/
theorem not_keepsLock : ¬ ∀ (start t : Traffic) (events : List Event) (tenant : Credentials), start.Run events t →
    start.callers = [] → (∀ e ∈ events, ∀ stage, e.deed = .begins stage → ∃ waits, stage = .locking waits) →
      KeepsLock tenant events := by
  intro always
  obtain ⟨t, run⟩ := Outlived.exists_run
  have renewals : ∀ e ∈ Outlived.before ++ Outlived.win :: (Outlived.middle ++ Outlived.again :: []),
      ∀ stage, e.deed = .begins stage → ∃ waits, stage = .locking waits := by
    simp [Outlived.before, Outlived.win, Outlived.middle, Outlived.again]
  rcases always _ t _ Outlived.tenant run rfl renewals _ _ _ _ _ rfl ⟨rfl, true, rfl⟩ ⟨rfl, false, rfl⟩ with
    ⟨e, among, own, releases⟩ | late
  · exact Outlived.keeps e among own releases
  · revert late
    decide

end ReplyGateway.Token.Traffic
