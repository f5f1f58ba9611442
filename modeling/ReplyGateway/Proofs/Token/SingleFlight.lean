import Mathlib
import ReplyGateway.Proofs.Token.Replay

namespace ReplyGateway.Token

section

variable (tenant : Credentials) (events : List Event)

/-- Whoever wins the lock of a tenant is cancelled, or gives the lock back before it expires, or still has time
for that when the events end. The time counts for giving the lock back only: a call may be cancelled at any time,
and one that is cancelled after the lock expired is `CancelledLate`. -/
def Timely : Prop :=
  ∀ win ∈ events, win.Wins tenant →
    (∃ e ∈ events, e.call = win.call ∧ e.Cancels) ∨
      (∃ e ∈ events, e.call = win.call ∧ e.Releases ∧ e.instant < win.instant + lockLifetime) ∨
      ∀ e ∈ events, e.instant < win.instant + lockLifetime

/-- Whoever wins the lock of a tenant is cancelled or gives the lock back before it expires, or still has time for
that when the events end. Here the time counts for both, so that nobody is cancelled late. -/
def EndsInTime : Prop :=
  ∀ win ∈ events, win.Wins tenant →
    (∃ e ∈ events, e.call = win.call ∧ (e.Releases ∨ e.Cancels) ∧ e.instant < win.instant + lockLifetime) ∨
      ∀ e ∈ events, e.instant < win.instant + lockLifetime

/-- A call won the lock and was cancelled, but not before the lock expired. -/
def CancelledLate (call : Nat) : Prop :=
  ∃ win ∈ events, win.call = call ∧ win.Wins tenant ∧
    ∃ e ∈ events, e.call = call ∧ e.Cancels ∧ win.instant + lockLifetime ≤ e.instant

/-- Whoever is in time in the narrow sense is so in the wide one. -/
theorem EndsInTime.timely {tenant : Credentials} {events : List Event} (ends : EndsInTime tenant events) :
    Timely tenant events := by
  intro win member wins
  rcases ends win member wins with ⟨e, among, own, releases | cancels, early⟩ | early
  · exact .inr (.inl ⟨e, among, own, releases, early⟩)
  · exact .inl ⟨e, among, own, cancels⟩
  · exact .inr (.inr early)

end

namespace Traffic

/-- What keeps others from winning the lock of a tenant: it is in the store, with the instant at which its one
holder won it. -/
structure LockKept (tenant : Credentials) (all before : List Event) (s : Traffic) : Prop where
  entry : ∀ {call}, s.Holds tenant call → ¬ CancelledLate tenant all call → ∃ win ∈ before, win.call = call ∧
    win.Wins tenant ∧ s.store.entries.get? tenant.lockKey = some ⟨lockMark, KeyValue.expiry win.instant lockLifetime⟩
  unique : ∀ {i j}, s.Holds tenant i → ¬ CancelledLate tenant all i → s.Holds tenant j →
    ¬ CancelledLate tenant all j → i = j

section

variable {start s t u : Traffic} {e win : Event} {all before after : List Event} {tenant : Credentials} {call : Nat}

/-- As long as a call holds the lock in time, everything happens before the lock expires: what ends the call is
still to come, and is in time. -/
theorem Run.instant_lt_of_holds (past : start.Run before s) (next : s.Next e u) (future : u.Run after t)
    (split : all = before ++ e :: after) (timely : Timely tenant all) (holds : s.Holds tenant call)
    (inTime : ¬ CancelledLate tenant all call) (member : win ∈ before) (own : win.call = call)
    (wins : win.Wins tenant) : e.instant < win.instant + lockLifetime := by
  have inAll : win ∈ all := by rw [split]; exact List.mem_append_left _ member
  have soon {ending : Event} (among : ending ∈ all) (own : ending.call = call)
      (ends : ending.Releases ∨ ending.Cancels) : e.instant ≤ ending.instant := by
    rw [split] at among
    rcases List.mem_append.mp among with old | new
    · exact absurd (own ▸ past.over_of_ends old ends) holds.not_isOver
    · rcases List.mem_cons.mp new with rfl | later
      · exact Nat.le_refl _
      · exact next.now_eq ▸ future.le_instant later
  rcases timely win inAll wins with ⟨c, among, same, cancels⟩ | ⟨r, among, same, releases, early⟩ | early
  · have le := soon among (same.trans own) (.inr cancels)
    by_contra late
    exact inTime ⟨win, inAll, own, wins, c, among, same.trans own, cancels, by omega⟩
  · have le := soon among (same.trans own) (.inl releases)
    omega
  · exact early e (by simp [split])

/-- By induction on the run: whoever holds the lock in time finds it in the store, so that nobody else wins it. -/
theorem Run.lock_kept (past : start.Run before s) (future : s.Run after t) (idle : start.callers = [])
    (split : all = before ++ after) (timely : Timely tenant all) : LockKept tenant all before s := by
  induction past generalizing after with
  | start =>
    have nobody {call : Nat} : ¬ start.Holds tenant call := by rintro ⟨c, found, _⟩; simp [idle] at found
    exact ⟨fun holds => absurd holds nobody, fun holds => absurd holds nobody⟩
  | @next before s u e past next ih =>
    have split' : all = before ++ e :: after := by simpa using split
    have kept := ih (.cons next future) split'
    -- nobody wins the lock while a call holds it in time
    have noWin {call : Nat} (wins : s.store.live? e.instant tenant.lockKey = none) (holds : s.Holds tenant call)
        (inTime : ¬ CancelledLate tenant all call) : False := by
      obtain ⟨win, member, own, won, entry⟩ := kept.entry holds inTime
      have early := past.instant_lt_of_holds next future split' timely holds inTime member own won
      rw [KeyValue.live?_of_early entry early] at wins
      cases wins
    rcases next.lock_cases tenant with ⟨wins, free, entry⟩ | ⟨notWins, held, releases⟩ | ⟨notWins, same⟩
    · have winner {call : Nat} (holds : u.Holds tenant call) (inTime : ¬ CancelledLate tenant all call) :
          e.call = call := by
        rcases next.holds_cases holds with ⟨_, own⟩ | ⟨before, _⟩
        · exact own
        · exact (noWin free before inTime).elim
      refine ⟨fun holds inTime => ⟨e, ?_, winner holds inTime, wins, entry⟩, fun hi ti hj tj => ?_⟩
      · exact List.mem_append_right _ (List.mem_singleton_self _)
      · exact (winner hi ti).symm.trans (winner hj tj)
    · -- a call that gives the lock back is not cancelled later, so that it is the one holder
      have inTime : ¬ CancelledLate tenant all e.call := by
        rintro ⟨_, _, _, _, c, among, own, cancels, _⟩
        rw [split'] at among
        rcases List.mem_append.mp among with old | new
        · exact held.not_isOver (own ▸ past.over_of_ends old (.inr cancels))
        · rcases List.mem_cons.mp new with rfl | later
          · obtain ⟨_, _, deed⟩ := releases
            rw [Event.Cancels, deed] at cancels
            cases cancels
          · exact future.call_ne_of_over (next.over_of_ends (.inl releases)) later own
      have nobody {call : Nat} (holds : u.Holds tenant call) (inTime' : ¬ CancelledLate tenant all call) : False := by
        rcases next.holds_cases holds with ⟨wins, _⟩ | ⟨before, other⟩
        · exact notWins wins
        · exact other ⟨releases, kept.unique held inTime before inTime'⟩
      exact ⟨fun holds inTime => (nobody holds inTime).elim, fun holds inTime => (nobody holds inTime).elim⟩
    · have earlier {call : Nat} (holds : u.Holds tenant call) : s.Holds tenant call := by
        rcases next.holds_cases holds with ⟨wins, _⟩ | ⟨before, _⟩
        · exact absurd wins notWins
        · exact before
      refine ⟨fun holds inTime => ?_, fun hi ti hj tj => kept.unique (earlier hi) ti (earlier hj) tj⟩
      obtain ⟨win, member, own, won, entry⟩ := kept.entry (earlier holds) inTime
      exact ⟨win, List.mem_append_left _ member, own, won, same.trans entry⟩

/-- Whether a call for a tenant is at work and waits for the issuer. -/
def Awaits (s : Traffic) (tenant : Credentials) (call : Nat) : Prop :=
  ∃ c, s.callers[call]? = some c ∧ c.isCancelled = false ∧ c.tenant.tenantId = tenant.tenantId ∧
    ∃ result, c.stage = .awaiting result

theorem Awaits.holds (awaits : s.Awaits tenant call) : s.Holds tenant call := by
  obtain ⟨c, found, working, own, result, stage⟩ := awaits
  exact ⟨c, found, working, own, by rw [stage, Stage.isHolding]⟩

/-- A call that stores a token holds the lock before and after, and had the token issued before. -/
theorem Next.holds_of_stores {token : Issued} (next : s.Next e u) (stores : e.Stores tenant token) :
    (∃ c, s.callers[e.call]? = some c ∧ c.isCancelled = false ∧ c.tenant.tenantId = tenant.tenantId ∧
        c.stage = .storing token) ∧
      ∃ c, u.callers[e.call]? = some c ∧ c.isCancelled = false ∧ c.tenant.tenantId = tenant.tenantId ∧
        ∃ outcome, c.stage = .releasing outcome := by
  obtain ⟨own, _, deed⟩ := stores
  cases next with
  | begin => cases deed
  | cancel => cases deed
  | @step call c answer instant found working =>
    have stage : c.stage = .storing token := (Deed.steps.inj deed).1
    have working := (Caller.isAtWork_iff.mp working).1
    refine ⟨⟨c, found, working, own, stage⟩, _, callers_advance_self found, rfl, own, .ok token.value, ?_⟩
    rw [stage]
    rfl

/-- A token that is stored after another one was asked for after that one was stored, so that an older token never
replaces a newer one. -/
theorem Run.asked_between {first middle last : List Event} {e₁ e₂ : Event} {token₁ token₂ : Issued}
    (past : start.Run (first ++ e₁ :: (middle ++ e₂ :: last)) s) (future : s.Run after t) (idle : start.callers = [])
    (split : all = first ++ e₁ :: (middle ++ e₂ :: last) ++ after) (timely : Timely tenant all)
    (stores₁ : e₁.Stores tenant token₁) (inTime₁ : ¬ CancelledLate tenant all e₁.call)
    (stores₂ : e₂.Stores tenant token₂) (inTime₂ : ¬ CancelledLate tenant all e₂.call) :
    (∃ a ∈ first, a.call = e₁.call ∧ a.Asks tenant token₁) ∧ ∃ a ∈ middle, a.call = e₂.call ∧ a.Asks tenant token₂ := by
  obtain ⟨a, toFirst, rest⟩ := past.split
  obtain ⟨b, next₁, rest⟩ := rest.uncons
  obtain ⟨c, toSecond, rest⟩ := rest.split
  obtain ⟨d, next₂, rest⟩ := rest.uncons
  obtain ⟨⟨_, foundA, workingA, ownA, stageA⟩, releasing, foundB, workingB, ownB, outcome, stageB⟩ :=
    next₁.holds_of_stores stores₁
  obtain ⟨⟨_, foundC, workingC, ownC, stageC⟩, _⟩ := next₂.holds_of_stores stores₂
  constructor
  · rcases toFirst.asked_of_issued foundA ownA workingA (by rw [stageA]; rfl) with asked | ⟨_, found, _⟩
    · exact asked
    · simp [idle] at found
  · rcases toSecond.asked_of_issued foundC ownC workingC (by rw [stageC]; rfl) with asked | holds
    · exact asked
    -- else the second call held the lock when the first one had stored its token, so that the two are one call,
    -- which cannot go back to storing
    · have kept := (toFirst.next next₁).lock_kept (toSecond.append (.cons next₂ (rest.append future))) idle
        (by simp [split]) timely
      have held : b.Holds tenant e₁.call := ⟨_, foundB, workingB, ownB, by rw [stageB, Stage.isHolding]⟩
      have same : e₁.call = e₂.call := kept.unique held inTime₁ holds inTime₂
      obtain ⟨_, found, le⟩ := toSecond.rank_le foundB
      rw [same, foundC, Option.some.injEq] at found
      rw [← found, stageB, stageC] at le
      simp [Stage.rank] at le

/-- At every moment of a run in which locks are given back in time, at most one call that is not cancelled late
has won the lock of a tenant and not given it back, and at most one waits for the issuer. Of any two tokens
that were stored for the tenant, the later one was asked for after the earlier one was stored. Calls that are cancelled
in time or never are all that is left if `EndsInTime` holds (`Run.single_flight_of_endsInTime`). -/
theorem Run.single_flight (past : start.Run before s) (future : s.Run after t) (idle : start.callers = [])
    (timely : Timely tenant (before ++ after)) :
    (∀ i j, s.Holds tenant i → ¬ CancelledLate tenant (before ++ after) i → s.Holds tenant j →
        ¬ CancelledLate tenant (before ++ after) j → i = j) ∧
      (∀ i j, s.Awaits tenant i → ¬ CancelledLate tenant (before ++ after) i → s.Awaits tenant j →
        ¬ CancelledLate tenant (before ++ after) j → i = j) ∧
      ∀ first e₁ middle e₂ last token₁ token₂, before = first ++ e₁ :: (middle ++ e₂ :: last) →
        e₁.Stores tenant token₁ → ¬ CancelledLate tenant (before ++ after) e₁.call →
        e₂.Stores tenant token₂ → ¬ CancelledLate tenant (before ++ after) e₂.call →
        (∃ a ∈ first, a.call = e₁.call ∧ a.Asks tenant token₁) ∧
          ∃ a ∈ middle, a.call = e₂.call ∧ a.Asks tenant token₂ := by
  refine ⟨fun i j hi ti hj tj => ?_, fun i j hi ti hj tj => ?_, ?_⟩
  · exact (past.lock_kept future idle rfl timely).unique hi ti hj tj
  · exact (past.lock_kept future idle rfl timely).unique hi.holds ti hj.holds tj
  · rintro first e₁ middle e₂ last token₁ token₂ rfl stores₁ inTime₁ stores₂ inTime₂
    exact past.asked_between future idle rfl timely stores₁ inTime₁ stores₂ inTime₂

/-- A call that is over does nothing more, so that nobody is cancelled late who ended in time. -/
theorem Run.not_cancelledLate (run : start.Run all t) (ends : EndsInTime tenant all) :
    ¬ CancelledLate tenant all call := by
  rintro ⟨win, member, own, wins, c, among, same, cancels, late⟩
  rcases ends win member wins with ⟨e, ending, other, ended, early⟩ | early
  · obtain ⟨first, last, a, b, rfl, past, next, future⟩ := run.around ending
    rcases List.mem_append.mp among with old | new
    · exact next.ne_of_over (past.over_of_ends old (.inr cancels)) (other.trans (own.trans same.symm))
    · rcases List.mem_cons.mp new with rfl | later
      · omega
      · exact future.call_ne_of_over (next.over_of_ends ended) later (same.trans (own.symm.trans other.symm))
  · have before := early c among
    omega

/-- If whoever wins the lock of a tenant is cancelled or gives the lock back before it expires, then at every moment at
most one call has won it and not given it back, at most one waits for the issuer, and tokens are stored in the order in
which they were asked for. -/
theorem Run.single_flight_of_endsInTime (past : start.Run before s) (future : s.Run after t)
    (idle : start.callers = []) (ends : EndsInTime tenant (before ++ after)) :
    (∀ i j, s.Holds tenant i → s.Holds tenant j → i = j) ∧
      (∀ i j, s.Awaits tenant i → s.Awaits tenant j → i = j) ∧
      ∀ (first middle last : List Event) (e₁ e₂ : Event) (token₁ token₂ : Issued),
        before = first ++ e₁ :: (middle ++ e₂ :: last) →
        e₁.Stores tenant token₁ → e₂.Stores tenant token₂ →
        (∃ a ∈ first, a.call = e₁.call ∧ a.Asks tenant token₁) ∧
          ∃ a ∈ middle, a.call = e₂.call ∧ a.Asks tenant token₂ := by
  have inTime (call : Nat) : ¬ CancelledLate tenant (before ++ after) call :=
    (past.append future).not_cancelledLate ends
  have kept := past.lock_kept future idle rfl ends.timely
  refine ⟨fun i j hi hj => ?_, fun i j hi hj => ?_, ?_⟩
  · exact kept.unique hi (inTime i) hj (inTime j)
  · exact kept.unique hi.holds (inTime i) hj.holds (inTime j)
  · rintro first middle last e₁ e₂ token₁ token₂ rfl stores₁ stores₂
    exact past.asked_between future idle rfl ends.timely stores₁ (inTime _) stores₂ (inTime _)

end

namespace Contended

def tenant : Credentials := ⟨"wx1", "", "", "", ""⟩

def old : Issued := ⟨"old", 7200000⟩

def new : Issued := ⟨"new", 7200000⟩

/-- Two calls try for the lock, and the one that has won it waits for the issuer when the other one has lost. -/
def contest : List Event :=
  [⟨0, 0, tenant, .begins (.locking true)⟩, ⟨1, 1, tenant, .begins (.locking true)⟩,
    ⟨5, 0, tenant, .steps (.locking true) .asking⟩, ⟨6, 1, tenant, .steps (.locking true) (.polling 9)⟩,
    ⟨6, 0, tenant, .steps .asking (.awaiting (.ok old))⟩]

def storesOld : Event := ⟨91, 0, tenant, .steps (.storing old) (.releasing (.ok "old"))⟩

/-- A third call wins the lock after the first one gave it back. -/
def renewal : List Event :=
  [⟨92, 0, tenant, .steps (.releasing (.ok "old")) (.finished (.ok (some "old")))⟩,
    ⟨100, 2, tenant, .begins (.locking false)⟩, ⟨101, 2, tenant, .steps (.locking false) .asking⟩,
    ⟨102, 2, tenant, .steps .asking (.awaiting (.ok new))⟩,
    ⟨122, 2, tenant, .steps (.awaiting (.ok new)) (.storing new)⟩]

def storesNew : Event := ⟨123, 2, tenant, .steps (.storing new) (.releasing (.ok "new"))⟩

def toStorage : List Event :=
  ⟨90, 0, tenant, .steps (.awaiting (.ok old)) (.storing old)⟩ :: storesOld :: (renewal ++ [storesNew])

/-- The call that lost against the first one looks for a token last. -/
def ending : List Event :=
  [⟨124, 2, tenant, .steps (.releasing (.ok "new")) (.finished (.ok (some "new")))⟩,
    ⟨506, 1, tenant, .steps (.polling 9) (.finished (.ok (some "new")))⟩]

def slow : Answer := ⟨80, .ok old⟩

def quick : Answer := ⟨20, .ok new⟩

theorem exists_run : ∃ a b u, (⟨0, .empty, []⟩ : Traffic).Run contest a ∧ a.Run toStorage b ∧ b.Run ending u ∧
    a.Awaits tenant 0 := by
  have played : ∃ a b u, (⟨0, .empty, []⟩ : Traffic).replay [(0, .begin tenant (.locking true)),
        (1, .begin tenant (.locking true)), (5, .step 0 slow), (6, .step 1 slow), (6, .step 0 slow)] =
          some (contest, a) ∧
      a.replay [(90, .step 0 slow), (91, .step 0 slow), (92, .step 0 slow), (100, .begin tenant (.locking false)),
        (101, .step 2 quick), (102, .step 2 quick), (122, .step 2 quick), (123, .step 2 quick)] =
          some (toStorage, b) ∧
      b.replay [(124, .step 2 quick), (506, .step 1 quick)] = some (ending, u) ∧
      ∃ c, a.callers[0]? = some c ∧ c.isCancelled = false ∧ c.tenant.tenantId = tenant.tenantId ∧
        ∃ result, c.stage = .awaiting result :=
    ⟨_, _, _, rfl, rfl, rfl, _, rfl, rfl, rfl, _, rfl⟩
  obtain ⟨a, b, u, contested, stored, ended, awaits⟩ := played
  exact ⟨a, b, u, replay_run contested, replay_run stored, replay_run ended, awaits⟩

theorem endsInTime : EndsInTime tenant (contest ++ (toStorage ++ ending)) := by
  intro win member wins
  have winner : win.call = 0 ∧ win.instant = 5 ∨ win.call = 2 ∧ win.instant = 101 := by
    obtain ⟨_, waits, deed⟩ := wins
    simp only [contest, toStorage, storesOld, renewal, storesNew, ending, List.cons_append, List.nil_append,
      List.mem_cons, List.not_mem_nil, or_false] at member
    rcases member with rfl | rfl | rfl | rfl | rfl | rfl | rfl | rfl | rfl | rfl | rfl | rfl | rfl | rfl | rfl <;>
      simp_all
  left
  rcases winner with ⟨own, instant⟩ | ⟨own, instant⟩
  · refine ⟨⟨92, 0, tenant, .steps (.releasing (.ok "old")) (.finished (.ok (some "old")))⟩, ?_, own.symm,
      .inl ⟨_, _, rfl⟩, by rw [instant]; decide⟩
    simp [toStorage, renewal]
  · refine ⟨⟨124, 2, tenant, .steps (.releasing (.ok "new")) (.finished (.ok (some "new")))⟩, ?_, own.symm,
      .inl ⟨_, _, rfl⟩, by rw [instant]; decide⟩
    simp [ending]

end Contended

/-- While the winner of the lock waits for the issuer nobody else does, although another call has tried for it; and the
token that replaces the first one was asked for when that one had been stored. -/
theorem Run.single_flight_of_contended : ∃ a b u, (⟨0, .empty, []⟩ : Traffic).Run Contended.contest a ∧
    a.Run Contended.toStorage b ∧ b.Run Contended.ending u ∧
    Timely Contended.tenant (Contended.contest ++ (Contended.toStorage ++ Contended.ending)) ∧
    a.Awaits Contended.tenant 0 ∧
    (∀ call, a.Awaits Contended.tenant call →
      ¬ CancelledLate Contended.tenant (Contended.contest ++ (Contended.toStorage ++ Contended.ending)) call →
        call = 0) ∧
    Contended.storesOld.Stores Contended.tenant Contended.old ∧
    Contended.storesNew.Stores Contended.tenant Contended.new ∧
    ∃ ask ∈ Contended.renewal, ask.call = 2 ∧ ask.Asks Contended.tenant Contended.new := by
  obtain ⟨a, b, u, contest, storage, ending, awaits⟩ := Contended.exists_run
  have timely := Contended.endsInTime.timely
  have inTime (call : Nat) : ¬ CancelledLate _ _ call :=
    (contest.append (storage.append ending)).not_cancelledLate Contended.endsInTime
  have old : Contended.storesOld.Stores Contended.tenant Contended.old := ⟨rfl, _, rfl⟩
  have new : Contended.storesNew.Stores Contended.tenant Contended.new := ⟨rfl, _, rfl⟩
  obtain ⟨_, alone, _⟩ := contest.single_flight (storage.append ending) rfl timely
  have assoc := List.append_assoc Contended.contest Contended.toStorage Contended.ending
  obtain ⟨_, _, ordered⟩ := (contest.append storage).single_flight ending rfl (assoc ▸ timely)
  obtain ⟨_, asked⟩ := ordered (Contended.contest ++ [⟨90, 0, _, .steps (.awaiting (.ok _)) (.storing _)⟩]) _ _ _ []
    _ _ rfl old (assoc ▸ inTime 0) new (assoc ▸ inTime 2)
  exact ⟨a, b, u, contest, storage, ending, timely, awaits, fun call other late => alone call 0 other late awaits
    (inTime 0), old, new, asked⟩

end Traffic
end ReplyGateway.Token
