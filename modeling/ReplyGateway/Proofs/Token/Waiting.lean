import Mathlib
import ReplyGateway.Proofs.Token.Lease
import ReplyGateway.Proofs.Token.Prompt

namespace ReplyGateway.Token

namespace Stage

variable (answer : Answer) (tenant : Credentials) (now : Nat) (store : KeyValue)

/-- What is left to a call that has not won the lock. -/
def isWaiting : Stage → Bool
  | polling _ | finished _ => true
  | _ => false

/-- Who waits changes nothing, and goes on waiting or is finished. -/
theorem isWaiting_move {s : Stage} (waiting : s.isWaiting = true) :
    (s.move answer tenant now store).stage.isWaiting = true ∧ (s.move answer tenant now store).store = store := by
  cases s with
  | polling => simp only [move, step]; split <;> exact ⟨rfl, rfl⟩
  | finished => exact ⟨rfl, rfl⟩
  | _ => cases waiting

/-- Who does not win the lock waits for half a second, or is finished if it does not wait at all. -/
theorem move_locking_of_ne_asking {waits : Bool}
    (lost : ((locking waits).move answer tenant now store).stage ≠ asking) :
    (locking waits).move answer tenant now store =
      if waits then ⟨polling (pollAttempts - 1), store, (), pollInterval⟩ else ⟨finished (.ok none), store, (), 0⟩ := by
  simp only [move, step] at lost ⊢
  split at lost <;> simp_all

theorem pause_of_move_eq_locking {s : Stage} {waits : Bool}
    (locks : (s.move answer tenant now store).stage = locking waits) : (s.move answer tenant now store).pause = 0 := by
  cases s with
  | reading => simp only [move, step]; split <;> rfl
  | dropping => rfl
  | locking => simp only [move, step] at locks; split at locks <;> cases locks
  | awaiting result => cases result <;> rfl
  | polling => simp only [move, step] at locks; split at locks <;> cases locks
  | asking => cases locks
  | _ => rfl

end Stage

namespace Event

/-- A call tries for the lock, which it does not win. -/
def Loses (waits : Bool) (e : Event) : Prop := ∃ after, e.deed = .steps (.locking waits) after ∧ after ≠ .asking

/-- If a call stores a token for a tenant, then one that can be found half a second later. -/
def StoresLasting (tenant : Credentials) (e : Event) : Prop :=
  ∀ token, e.Stores tenant token → token.value ≠ "" ∧ pollInterval < token.lifetime

def CancelsOrFinds (e : Event) : Prop :=
  e.Cancels ∨ ∃ before token, e.deed = .steps before (.finished (.ok (some token)))

theorem CancelsOrFinds.of_steps {e : Event} {before stage : Stage} (does : e.CancelsOrFinds)
    (deed : e.deed = .steps before stage) : ∃ found, stage = .finished (.ok (some found)) := by
  rcases does with cancels | ⟨_, found, finds⟩
  · rw [Cancels, deed] at cancels
    cases cancels
  · rw [deed] at finds
    exact ⟨found, (Deed.steps.inj finds).2⟩

end Event

namespace Traffic

section

variable {prompt : Nat → Prop} {start s a b t u x : Traffic} {e loss store : Event}
  {events before middle after : List Event} {tenant : Credentials} {call since : Nat} {c : Caller} {waits : Bool}

/-- A call is as it was, or it is cancelled, or nearer to its end. -/
theorem Next.kept_or_nearer (next : s.Next e u) (found : s.callers[call]? = some c) :
    u.callers[call]? = some c ∨
      ∃ d, u.callers[call]? = some d ∧ (d.isCancelled = true ∨ d.stage.rank < c.stage.rank) := by
  by_cases same : call = e.call
  · subst same
    right
    cases next with
    | begin => simp at found
    | @step _ _ answer instant found' working =>
      obtain rfl := Option.some.inj (found.symm.trans found')
      have less := Stage.rank_step_lt (fun _ _ => (answer, ())) c.tenant instant s.store ()
        (Caller.isAtWork_iff.mp working).2
      exact ⟨_, callers_advance_self found, .inr (Nat.lt_of_le_of_lt (Nat.le_add_right ..) less)⟩
    | cancel =>
      have bound := (List.getElem?_eq_some_iff.mp found).1
      exact ⟨_, List.getElem?_set_self bound, .inl rfl⟩
  · exact .inl (next.caller_kept same found)

/-- A run leaves a call as it was, or cancelled, or nearer to its end. -/
theorem Run.kept_or_nearer (run : s.Run events u) (found : s.callers[call]? = some c) :
    u.callers[call]? = some c ∨
      ∃ d, u.callers[call]? = some d ∧ (d.isCancelled = true ∨ d.stage.rank < c.stage.rank) := by
  induction run with
  | start => exact .inl found
  | next _ next ih =>
    rcases ih with same | ⟨d, found, cancelled | nearer⟩
    · exact next.kept_or_nearer same
    · have ended : Caller.isAtWork d = false := by simp [Caller.isAtWork, cancelled]
      have other := next.ne_of_over ⟨d, found, ended⟩
      exact .inr ⟨d, next.caller_kept (Ne.symm other) found, .inl cancelled⟩
    · obtain ⟨d', found', le⟩ := next.rank_le found
      exact .inr ⟨d', found', .inr (Nat.lt_of_le_of_lt le nearer)⟩

theorem isOver_of_isFinished (found : s.callers[call]? = some c) (finished : c.stage.isFinished = true) :
    s.IsOver call :=
  ⟨c, found, by simp [Caller.isAtWork, Task.isWorking, finished]⟩

/-- A call that stands before a lock may try for it at once. -/
def LocksAtOnce (s : Traffic) : Prop := ∀ c ∈ s.callers, ∀ waits, c.stage = .locking waits → c.ready ≤ s.now

theorem Next.locksAtOnce (next : s.Next e u) (atOnce : s.LocksAtOnce) : u.LocksAtOnce := by
  have earlier {c : Caller} (member : c ∈ s.callers) {waits : Bool} (locks : c.stage = .locking waits) :
      c.ready ≤ e.instant := Nat.le_trans (atOnce c member waits locks) next.now_le
  cases next with
  | begin =>
    intro c member waits locks
    rcases List.mem_append.mp member with old | new
    · exact earlier old locks
    · rw [List.mem_singleton.mp new]
  | @step call c answer instant =>
    intro d member waits locks
    simp only [advance, List.mem_append] at member
    rcases member with among | new
    · rcases List.mem_or_eq_of_mem_set among with old | rfl
      · exact earlier old locks
      · show instant + (c.stage.move answer c.tenant instant s.store).pause ≤ instant
        rw [Stage.pause_of_move_eq_locking _ _ _ _ locks, Nat.add_zero]
    · split at new
      · rw [List.mem_singleton.mp new]
        exact Nat.le_refl _
      · cases new
  | @cancel call c instant found =>
    intro d member waits locks
    rcases List.mem_or_eq_of_mem_set member with old | rfl
    · exact earlier old locks
    · exact earlier (c := c) (List.mem_of_getElem? found) locks

theorem Run.locksAtOnce (run : start.Run events u) (idle : start.callers = []) : u.LocksAtOnce := by
  induction run with
  | start => simp [LocksAtOnce, idle]
  | next _ next ih => exact next.locksAtOnce ih

/-- What a call comes to by not winning the lock. -/
theorem Next.caller_of_loses (next : a.Next loss b) (loses : loss.Loses waits) :
    b.store = a.store ∧ ∃ c, b.callers[loss.call]? = some c ∧ c.isCancelled = false ∧ c.tenant = loss.tenant ∧
      loss.deed = .steps (.locking waits) c.stage ∧
      (if waits then c.stage = .polling (pollAttempts - 1) ∧ c.ready = loss.instant + pollInterval
        else c.stage = .finished (.ok none)) := by
  obtain ⟨_, deed, notAsking⟩ := loses
  cases next with
  | begin => cases deed
  | @step call c answer instant found =>
    obtain ⟨locking, rfl⟩ := Deed.steps.inj deed
    rw [locking] at notAsking
    have moved := Stage.move_locking_of_ne_asking answer c.tenant instant a.store notAsking
    refine ⟨?_, _, callers_advance_self found, rfl, rfl, by rw [locking], ?_⟩
    · simp only [advance, locking, moved]
      split <;> rfl
    · simp only [locking, moved]
      split <;> simp
  | cancel => cases deed

/-- What a look for the token of the holder comes to. -/
theorem Next.polling_cases {more : Nat} (next : t.Next e u) (found : t.callers[e.call]? = some c)
    (polling : c.stage = .polling more) (goesOn : ¬ e.Cancels) :
    ∃ d, u.callers[e.call]? = some d ∧ d.isCancelled = false ∧ d.tenant = c.tenant ∧ e.tenant = c.tenant ∧
      e.deed = .steps (.polling more) d.stage ∧
      ((∃ token, stored? t.store e.instant c.tenant = some token ∧ d.stage = .finished (.ok (some token))) ∨
        (stored? t.store e.instant c.tenant = none ∧ more = 0 ∧ d.stage = .finished (.error (timedOut c.tenant))) ∨
        (∃ left, stored? t.store e.instant c.tenant = none ∧ more = left + 1 ∧ d.stage = .polling left ∧
          d.ready = e.instant + pollInterval)) := by
  cases next with
  | begin => simp at found
  | @step _ _ answer instant found' =>
    obtain rfl := Option.some.inj (found.symm.trans found')
    refine ⟨_, callers_advance_self found, rfl, rfl, rfl, by rw [polling], ?_⟩
    rw [polling]
    simp only [Stage.move, Stage.step]
    cases sight : stored? t.store instant c.tenant with
    | some token => exact .inl ⟨token, rfl, rfl⟩
    | none =>
      cases more with
      | zero => exact .inr (.inl ⟨rfl, rfl, rfl⟩)
      | succ left => exact .inr (.inr ⟨left, rfl, rfl, rfl, rfl⟩)
  | cancel => exact absurd rfl goesOn

theorem Next.of_isWaiting (next : x.Next e u) (found : x.callers[e.call]? = some c)
    (waiting : c.stage.isWaiting = true) : u.store = x.store ∧ ∀ stage, e.deed ≠ .steps .asking stage := by
  cases next with
  | begin => exact ⟨rfl, by simp⟩
  | step found' =>
    obtain rfl := Option.some.inj (found.symm.trans found')
    refine ⟨(Stage.isWaiting_move _ _ _ _ waiting).2, fun stage asks => ?_⟩
    rw [(Deed.steps.inj asks).1] at waiting
    cases waiting
  | cancel => exact ⟨rfl, by simp⟩

/-- Who waits neither changes the store nor asks the issuer. -/
theorem Run.of_isWaiting (run : s.Run events x) (next : x.Next e u) (found : s.callers[e.call]? = some c)
    (waiting : c.stage.isWaiting = true) : u.store = x.store ∧ ∀ stage, e.deed ≠ .steps .asking stage := by
  obtain ⟨d, found', waiting'⟩ := run.caller_keeps (p := fun _ stage => stage.isWaiting = true)
    (fun _ _ _ _ _ has => (Stage.isWaiting_move _ _ _ _ has).1) found waiting
  exact next.of_isWaiting found' waiting'

/-- In a run, a call looks for the token of the holder at an instant, finds this, and comes to this stage. -/
def Polls (s : Traffic) (events : List Event) (t : Traffic) (call instant : Nat) (found : Option String)
    (stage : Stage) : Prop :=
  ∃ first look rest x y more, events = first ++ look :: rest ∧ s.Run first x ∧ x.Next look y ∧ y.Run rest t ∧
    look.call = call ∧ look.instant = instant ∧ look.deed = .steps (.polling more) stage ∧
    stored? x.store instant look.tenant = found

theorem Polls.snoc {instant : Nat} {found : Option String} {stage : Stage}
    (polls : s.Polls events t call instant found stage) (next : t.Next e u) :
    s.Polls (events ++ [e]) u call instant found stage := by
  obtain ⟨first, look, rest, x, y, more, rfl, past, now, future, same⟩ := polls
  exact ⟨first, look, rest ++ [e], x, y, more, by simp, past, now, future.next next, same⟩

/-- A call that waits since an instant has looked for the token so often in vain, at equal distances. -/
def PollsInVain (s : Traffic) (events : List Event) (t : Traffic) (call since looks : Nat) : Prop :=
  ∀ look, 0 < look → look ≤ looks → ∃ stage, s.Polls events t call (since + look * pollInterval) none stage

theorem PollsInVain.snoc {looks : Nat} (inVain : s.PollsInVain events t call since looks) (next : t.Next e u) :
    s.PollsInVain (events ++ [e]) u call since looks := by
  intro look pos le
  obtain ⟨stage, polls⟩ := inVain look pos le
  exact ⟨stage, polls.snoc next⟩

/-- How the wait of a call ends: with the first token that it finds, or with an error if it finds none. -/
inductive WaitEnds (s : Traffic) (events : List Event) (t : Traffic) (call since : Nat) (tenant : Credentials) : Prop
  | obtains (looks : Nat) (token : String) : looks < pollAttempts → s.PollsInVain events t call since looks →
      s.Polls events t call (since + (looks + 1) * pollInterval) (some token) (.finished (.ok (some token))) →
      WaitEnds s events t call since tenant
  | fails : s.PollsInVain events t call since pollAttempts →
      s.Polls events t call (since + pollAttempts * pollInterval) none (.finished (.error (timedOut tenant))) →
      WaitEnds s events t call since tenant

theorem WaitEnds.snoc (ends : s.WaitEnds events t call since tenant) (next : t.Next e u) :
    s.WaitEnds (events ++ [e]) u call since tenant := by
  rcases ends with ⟨looks, token, few, inVain, finds⟩ | ⟨inVain, last⟩
  · exact .obtains looks token few (inVain.snoc next) (finds.snoc next)
  · exact .fails (inVain.snoc next) (last.snoc next)

/-- A call has waited since an instant, has looked so often in vain, and goes on with its next look. -/
structure StillWaits (s : Traffic) (events : List Event) (t : Traffic) (call since : Nat) (tenant : Credentials)
    (looks : Nat) (c : Caller) : Prop where
  few : looks < pollAttempts
  inVain : s.PollsInVain events t call since looks
  found : t.callers[call]? = some c
  active : c.isCancelled = false
  ofTenant : c.tenant = tenant
  polling : c.stage = .polling (pollAttempts - 1 - looks)
  ready : c.ready = since + (looks + 1) * pollInterval
  near : c.ready ≤ t.now + pollInterval
  reached : t.now ≤ c.ready

/-- How far a call has come that waits since an instant. -/
inductive Progress (s : Traffic) (events : List Event) (t : Traffic) (call since : Nat) (tenant : Credentials) : Prop
  | waits (looks : Nat) (c : Caller) : s.StillWaits events t call since tenant looks c →
      Progress s events t call since tenant
  | ends : t.IsOver call → s.WaitEnds events t call since tenant → Progress s events t call since tenant
  | cancelled : t.IsOver call → (∃ e ∈ events, e.call = call ∧ e.Cancels) → Progress s events t call since tenant

theorem StillWaits.isAtWork {looks : Nat} (waits : s.StillWaits events t call since tenant looks c) :
    c.isAtWork = true :=
  Caller.isAtWork_iff.mpr ⟨waits.active, by rw [waits.polling]; rfl⟩

theorem StillWaits.of_other {looks : Nat} (waits : s.StillWaits events t call since tenant looks c)
    (next : t.Next e u) (other : call ≠ e.call) (early : e.instant ≤ c.ready) :
    s.StillWaits (events ++ [e]) u call since tenant looks c := by
  have present : u.now = e.instant := next.now_eq
  have later : t.now ≤ u.now := present ▸ next.now_le
  exact { waits with
    inVain := waits.inVain.snoc next
    found := next.caller_kept other waits.found
    near := Nat.le_trans waits.near (Nat.add_le_add_right later _)
    reached := present ▸ early }

/-- A look finds a token, or it is the last one, or the call waits for half a second more. -/
theorem StillWaits.of_look {looks : Nat} (waits : s.StillWaits events t e.call since tenant looks c)
    (run : s.Run events t) (next : t.Next e u) (goesOn : ¬ e.Cancels) (early : e.instant ≤ c.ready) :
    s.Progress (events ++ [e]) u e.call since tenant := by
  obtain ⟨few, inVain, found, active, rfl, polling, ready, _, _⟩ := waits
  have now : e.instant = since + (looks + 1) * pollInterval := (next.instant_eq found goesOn early).trans ready
  obtain ⟨d, there, active', sameTenant, ofTenant, deed, cases⟩ := next.polling_cases found polling goesOn
  have polls {sight : Option String} (sees : stored? t.store e.instant c.tenant = sight) :
      s.Polls (events ++ [e]) u e.call (since + (looks + 1) * pollInterval) sight d.stage :=
    ⟨events, e, [], t, u, _, rfl, run, next, .start, rfl, now, deed, by rw [ofTenant, ← now, sees]⟩
  have ended (finished : d.stage.isFinished = true) : u.IsOver e.call := isOver_of_isFinished there finished
  have inVain' (none : stored? t.store e.instant c.tenant = none) :
      s.PollsInVain (events ++ [e]) u e.call since (looks + 1) := by
    intro look pos le
    rcases Nat.lt_or_eq_of_le le with earlier | rfl
    · exact inVain.snoc next look pos (Nat.le_of_lt_succ earlier)
    · exact ⟨_, polls none⟩
  rcases cases with ⟨token, finds, stage⟩ | ⟨none, last, stage⟩ | ⟨more, none, left, stage, later⟩
  · refine .ends (ended (by rw [stage]; rfl)) (.obtains looks token few (inVain.snoc next) ?_)
    exact stage ▸ polls finds
  · have all : looks + 1 = pollAttempts := by omega
    refine .ends (ended (by rw [stage]; rfl)) (.fails (all ▸ inVain' none) ?_)
    rw [← all, ← stage]
    exact polls none
  · have left' : more = pollAttempts - 1 - (looks + 1) := by omega
    have present : u.now = e.instant := next.now_eq
    have ready' : d.ready = u.now + pollInterval := later.trans (by rw [present])
    exact .waits (looks + 1) d {
      few := by omega
      inVain := inVain' none
      found := there
      active := active'
      ofTenant := sameTenant
      polling := left' ▸ stage
      ready := by rw [later, now, Nat.add_assoc, ← Nat.succ_mul]
      near := ready'.le
      reached := ready' ▸ Nat.le_add_right .. }

/-- One event leaves a waiting call on its way. -/
theorem Progress.next (progress : s.Progress events t call since tenant) (run : s.Run events t) (next : t.Next e u)
    (inTime : t.IsInTime prompt e.instant) (isPrompt : prompt call) :
    s.Progress (events ++ [e]) u call since tenant := by
  rcases progress with ⟨looks, c, waits⟩ | ⟨ended, ends⟩ | ⟨ended, cancel, member, cancels⟩
  -- a call that still waits is not late, so what happens is its next look or comes before that
  · have early : e.instant ≤ c.ready := inTime call c isPrompt waits.found waits.isAtWork
    by_cases own : call = e.call
    · subst own
      by_cases cancels : e.Cancels
      · have ended : u.IsOver e.call := next.over_of_ends (.inr cancels)
        exact .cancelled ended ⟨e, List.mem_append_right _ (List.mem_singleton_self _), rfl, cancels⟩
      · exact waits.of_look run next cancels early
    · exact .waits looks c (waits.of_other next own early)
  · exact .ends (next.over_kept ended) (ends.snoc next)
  · exact .cancelled (next.over_kept ended) ⟨cancel, List.mem_append_left _ member, cancels⟩

/-- A call that waits has looked for the token at its instants, and at no others. -/
theorem PromptRun.progress (run : b.PromptRun prompt events t) (found : b.callers[call]? = some c)
    (working : c.isCancelled = false) (polling : c.stage = .polling (pollAttempts - 1))
    (ready : c.ready = b.now + pollInterval) (isPrompt : prompt call) :
    b.Progress events t call b.now c.tenant := by
  induction run with
  | start =>
    exact .waits 0 c {
      few := by decide
      inVain := fun look pos none => by omega
      found := found
      active := working
      ofTenant := rfl
      polling := polling
      ready := by rw [ready, Nat.zero_add, Nat.one_mul]
      near := ready.le
      reached := ready ▸ Nat.le_add_right .. }
  | next run next inTime ih => exact ih.next run.run next inTime isPrompt

/-- There is a token in the store, put there not before an instant, that outlasts the pause between two looks. -/
def HasLasting (s : Traffic) (tenant : Credentials) (since : Nat) : Prop :=
  ∃ value written lifetime, s.store.entries.get? tenant.accessTokenKey =
      some ⟨value, KeyValue.expiry written lifetime⟩ ∧ value ≠ "" ∧ pollInterval < lifetime ∧ since ≤ written

theorem HasLasting.stored? {now : Nat} (lasting : s.HasLasting tenant since) (soon : now ≤ since + pollInterval) :
    ∃ token, stored? s.store now tenant = some token := by
  obtain ⟨value, written, lifetime, entry, full, long, late⟩ := lasting
  have early : now < written + lifetime := by omega
  exact ⟨value, by simp [Token.stored?, KeyValue.get?, KeyValue.live?_of_early entry early, full]⟩

theorem Next.hasLasting_of_stores {token : Issued} (next : s.Next e u) (stores : e.Stores tenant token)
    (lasts : e.StoresLasting tenant) (late : since ≤ e.instant) : u.HasLasting tenant since := by
  obtain ⟨full, long⟩ := lasts token stores
  exact ⟨_, _, _, next.entry_of_stores stores, full, lt_min long (by decide), late⟩

/-- An event leaves a token that lasts, unless it throws the token away or stores one that does not last. -/
theorem Next.hasLasting (next : s.Next e u) (lasting : s.HasLasting tenant since) (present : since ≤ s.now)
    (kept : ¬ e.Drops tenant) (lasts : e.StoresLasting tenant) : u.HasLasting tenant since := by
  rcases next.token_entry_cases tenant with ⟨token, stores⟩ | drops | same
  · exact next.hasLasting_of_stores stores lasts (Nat.le_trans present next.now_le)
  · exact absurd drops kept
  · obtain ⟨value, written, lifetime, entry, rest⟩ := lasting
    exact ⟨value, written, lifetime, same.trans entry, rest⟩

/-- From now on nobody throws the token of a tenant away, and whoever stores one stores one that lasts. -/
def Lasts (tenant : Credentials) (events : List Event) : Prop :=
  ∀ e ∈ events, ¬ e.Drops tenant ∧ e.StoresLasting tenant

theorem Run.hasLasting (run : s.Run events t) (lasting : s.HasLasting tenant since) (present : since ≤ s.now)
    (lasts : Lasts tenant events) : t.HasLasting tenant since := by
  induction run with
  | start => exact lasting
  | @next events t u e run next ih =>
    obtain ⟨kept, stores⟩ := lasts e (List.mem_append_right _ (List.mem_singleton_self _))
    have before : t.HasLasting tenant since := ih fun e member => lasts e (List.mem_append_left _ member)
    exact next.hasLasting before (Nat.le_trans present run.now_le) kept stores

/-- A look that finds a token ends the call. -/
theorem Next.finds_of_stored? {left : Nat} {value : String} (next : t.Next e u) (found : t.callers[e.call]? = some c)
    (polling : c.stage = .polling left) (sees : stored? t.store e.instant c.tenant = some value) :
    u.IsOver e.call ∧ e.CancelsOrFinds := by
  by_cases cancels : e.Cancels
  · exact ⟨next.over_of_ends (.inr cancels), .inl cancels⟩
  · obtain ⟨d, there, _, _, _, deed, ⟨token, _, stage⟩ | ⟨none, _⟩ | ⟨_, none, _⟩⟩ :=
      next.polling_cases found polling cancels
    · exact ⟨isOver_of_isFinished there (by rw [stage]; rfl), .inr ⟨_, token, stage ▸ deed⟩⟩
    · rw [none] at sees
      cases sees
    · rw [none] at sees
      cases sees

/-- As long as the token lasts, all that a waiting call can do is to be cancelled or to find it. -/
theorem PromptRun.finds_of_hasLasting {left : Nat} (run : s.PromptRun prompt events t)
    (found : s.callers[call]? = some c) (working : c.isCancelled = false) (polling : c.stage = .polling left)
    (soon : c.ready ≤ since + pollInterval) (lasting : s.HasLasting c.tenant since) (present : since ≤ s.now)
    (lasts : Lasts c.tenant events) (isPrompt : prompt call) :
    (t.callers[call]? = some c ∨ t.IsOver call) ∧ ∀ look ∈ events, look.call = call → look.CancelsOrFinds := by
  induction run with
  | start => exact ⟨.inl found, by simp⟩
  | @next events t u e run next inTime ih =>
    have lastsBefore : Lasts c.tenant events := fun e member => lasts e (List.mem_append_left _ member)
    obtain ⟨state, looks⟩ := ih lastsBefore
    have extended (does : e.call = call → e.CancelsOrFinds) :
        ∀ look ∈ events ++ [e], look.call = call → look.CancelsOrFinds :=
      List.forall_mem_append.mpr ⟨looks, List.forall_mem_singleton.mpr does⟩
    rcases state with same | ended
    · by_cases own : e.call = call
      · subst own
        have unfinished : c.isAtWork = true := Caller.isAtWork_iff.mpr ⟨working, by rw [polling]; rfl⟩
        have early : e.instant ≤ since + pollInterval := Nat.le_trans (inTime _ c isPrompt same unfinished) soon
        obtain ⟨value, sees⟩ := (run.run.hasLasting lasting present lastsBefore).stored? early
        obtain ⟨ended, does⟩ := next.finds_of_stored? same polling sees
        exact ⟨.inr ended, extended fun _ => does⟩
      · exact ⟨.inl (next.caller_kept (Ne.symm own) same), extended fun same => absurd same own⟩
    · exact ⟨.inr (next.over_kept ended), extended fun same => absurd same (next.ne_of_over ended)⟩

/-- Nothing happens later while a prompt call that has stored its token still holds the lock. -/
theorem PromptRun.instant_le_of_holds {token : Issued} (next : s.Next store u) (run : u.PromptRun prompt middle a)
    (inTime : a.IsInTime prompt e.instant) (stores : store.Stores tenant token) (holds : a.Holds tenant store.call)
    (isPrompt : prompt store.call) : e.instant ≤ store.instant := by
  obtain ⟨_, after, deed⟩ := stores
  obtain ⟨d, there, working, _, holding⟩ := holds
  cases next with
  | begin => cases deed
  | @step call c answer instant found =>
    obtain ⟨storing, _⟩ := Deed.steps.inj deed
    have afterwards := @callers_advance_self s call c answer instant found
    simp only [storing, Stage.move, Stage.step, Nat.add_zero] at afterwards
    rcases run.run.kept_or_nearer afterwards with same | ⟨d', there', cancelled | nearer⟩
    · exact inTime _ _ isPrompt same rfl
    · obtain rfl := Option.some.inj (there.symm.trans there')
      rw [working] at cancelled
      cases cancelled
    · obtain rfl := Option.some.inj (there.symm.trans there')
      cases stage : d.stage <;> simp [stage, Stage.rank, Stage.isHolding] at nearer holding
  | cancel => cases deed

/-- The holder of a lock stores a token, after a call has lost against it, or before and it has the lock still. Tells
what happens from then on. A token that is stored after the loss counts whoever stores it. One that is there already
counts if its holder is prompt, too: it gives the lock back at once, so that the loss is at the instant of the store;
any other holder may keep the lock until the token has expired. -/
inductive HolderStores (prompt : Nat → Prop) (a : Traffic) (before : List Event) (loss : Event) (after : List Event)
    (store : Event) : List Event → Prop
  | later (first rest : List Event) : after = first ++ store :: rest →
      HolderStores prompt a before loss after store rest
  | already (first middle : List Event) : before = first ++ store :: middle → a.Holds loss.tenant store.call →
      prompt store.call → HolderStores prompt a before loss after store (middle ++ loss :: after)

/-- A call that has not won the lock changes nothing and is soon over. What is said of instants is said of prompt calls,
which act as soon as they may; with `prompt := fun _ => True` all calls are, and nothing is left of that condition, in
`HolderStores` either. -/
structure WaitsInBounds (prompt : Nat → Prop) (start : Traffic) (before : List Event) (a : Traffic) (loss : Event)
    (waits : Bool) (b : Traffic) (after : List Event) (t : Traffic) : Prop where
  neverAsks : ∀ e ∈ before ++ loss :: after, e.call = loss.call → ∀ stage, e.deed ≠ .steps .asking stage
  /-- From its try for the lock on it leaves the store as it is. -/
  neverWrites : b.store = a.store ∧ ∀ (first rest : List Event) (e : Event) (x y : Traffic),
    after = first ++ e :: rest → b.Run first x → x.Next e y → e.call = loss.call → y.store = x.store
  /-- It has come to the lock at the very instant at which it does not win it. -/
  begun : prompt loss.call → ∀ (first rest : List Event) (x : Traffic) (c : Caller), before = first ++ rest →
    start.Run first x → x.Run rest a → x.callers[loss.call]? = some c → c.stage = .locking waits → x.now = loss.instant
  atOnce : waits = false → loss.deed = .steps (.locking false) (.finished (.ok none))
  ends : prompt loss.call → waits = true → t.IsOver loss.call → (∀ e ∈ after, e.call = loss.call → ¬ e.Cancels) →
    b.WaitEnds after t loss.call loss.instant loss.tenant
  bounded : prompt loss.call → loss.instant + pollAttempts * pollInterval < t.now → t.IsOver loss.call
  /-- Once the holder has stored a token that lasts, every look finds one. -/
  finds : prompt loss.call → waits = true → ∀ (store : Event) (token : Issued) (later : List Event) (look : Event)
    (left : Nat) (stage : Stage), HolderStores prompt a before loss after store later →
      store.Stores loss.tenant token → Lasts loss.tenant (store :: later) → look ∈ later → look.call = loss.call →
        look.deed = .steps (.polling left) stage → ∃ found, stage = .finished (.ok (some found))
  /-- So a call obtains a token if the holder stores one before the last look. The holder has to be prompt only where
  it has stored the token before the loss (`HolderStores.already`). -/
  obtains : prompt loss.call → waits = true → t.IsOver loss.call → (∀ e ∈ after, e.call = loss.call → ¬ e.Cancels) →
    ∀ (store : Event) (token : Issued) (later : List Event), HolderStores prompt a before loss after store later →
      store.Stores loss.tenant token → Lasts loss.tenant (store :: later) →
        store.instant < loss.instant + pollAttempts * pollInterval → ∃ looks found, looks < pollAttempts ∧
          b.Polls after t loss.call (loss.instant + (looks + 1) * pollInterval) (some found)
            (.finished (.ok (some found)))

theorem HolderStores.mem_of_instant_lt {later : List Event} {look : Event}
    (holder : HolderStores prompt a before loss after store later) (run : b.Run after t) (member : look ∈ after)
    (late : store.instant < look.instant) : look ∈ later := by
  cases holder with
  | later first rest split =>
    subst split
    obtain ⟨x, y, soFar, now, _⟩ := run.split_cons
    rcases List.mem_append.mp member with old | new
    · exact absurd (Nat.le_trans (soFar.instant_le old) now.now_le) (Nat.not_le.mpr late)
    · rcases List.mem_cons.mp new with rfl | coming
      · exact absurd late (Nat.lt_irrefl _)
      · exact coming
  | already => exact List.mem_append_right _ (List.mem_cons_of_mem _ member)

theorem Next.atWork_of_loses (next : a.Next loss b) (loses : loss.Loses waits) :
    ∃ c, a.callers[loss.call]? = some c ∧ c.isAtWork = true ∧ c.stage = .locking waits := by
  obtain ⟨_, deed, _⟩ := loses
  cases next with
  | begin => cases deed
  | step found working => exact ⟨_, found, working, (Deed.steps.inj deed).1⟩
  | cancel => cases deed

/-- What a call does before it comes to the lock, it does on its way there. -/
theorem Run.mayAsk_of_loses {stage stage' : Stage} (past : start.Run before a) (next : a.Next loss b)
    (loses : loss.Loses waits) (member : e ∈ before) (own : e.call = loss.call) (deed : e.deed = .steps stage stage') :
    stage.mayAsk = true ∧ stage ≠ .asking := by
  obtain ⟨first, rest, x, y, rfl, _, now, since⟩ := past.around member
  obtain ⟨_, answer, d, _, _, _, moved, found, _, same⟩ := now.caller_of_steps deed
  obtain ⟨c, there, _, locking⟩ := next.atWork_of_loses loses
  have mayAsk : d.stage.mayAsk = true := by
    by_contra ended
    obtain ⟨d', found', ended'⟩ := since.mayAsk_kept found (Bool.eq_false_iff.mpr ended)
    rw [own, there, Option.some.injEq] at found'
    rw [← found', locking] at ended'
    cases ended'
  rw [same, moved] at mayAsk
  constructor
  · by_contra ended
    rw [Stage.mayAsk_move _ _ _ _ (Bool.eq_false_iff.mpr ended)] at mayAsk
    cases mayAsk
  · rintro rfl
    cases mayAsk

/-- A token that is stored after the loss is found, whoever stores it. -/
theorem PromptRun.finds_of_stores {token : Issued} {first rest : List Event} {look : Event} (next : a.Next loss b)
    (future : b.PromptRun prompt (first ++ store :: rest) t) (loses : loss.Loses true) (isPrompt : prompt loss.call)
    (stores : store.Stores loss.tenant token) (lasts : Lasts loss.tenant (store :: rest)) (member : look ∈ rest)
    (own : look.call = loss.call) : look.CancelsOrFinds := by
  obtain ⟨_, c, found, working, sameTenant, _, polling, ready⟩ := next.caller_of_loses loses
  have present : b.now = loss.instant := next.now_eq
  obtain ⟨x, y, soFar, stored, future, early⟩ := future.split_cons
  have lasting : y.HasLasting loss.tenant store.instant :=
    stored.hasLasting_of_stores stores (lasts store (List.mem_cons_self ..)).2 (Nat.le_refl _)
  have lastsLater : Lasts loss.tenant rest := fun e member => lasts e (List.mem_cons_of_mem _ member)
  have now : y.now = store.instant := stored.now_eq
  rcases (soFar.next stored early).progress found working polling (present ▸ ready) isPrompt with
    ⟨looks, d, waits⟩ | ⟨ended, _⟩ | ⟨ended, _⟩
  · have near : d.ready ≤ store.instant + pollInterval := now ▸ waits.near
    rw [← sameTenant, ← waits.ofTenant] at lasting lastsLater
    have finds := future.finds_of_hasLasting waits.found waits.active waits.polling near lasting now.ge lastsLater
    exact (finds isPrompt).2 look member own
  · exact absurd own (future.run.call_ne_of_over ended member)
  · exact absurd own (future.run.call_ne_of_over ended member)

/-- A token that was stored before the loss is found, if its holder is prompt and has the lock still. -/
theorem PromptRun.finds_of_holds {token : Issued} {first : List Event} {look : Event}
    (past : start.PromptRun prompt (first ++ store :: middle) a) (inTime : a.IsInTime prompt loss.instant)
    (next : a.Next loss b) (future : b.PromptRun prompt after t) (loses : loss.Loses true) (isPrompt : prompt loss.call)
    (holds : a.Holds loss.tenant store.call) (storePrompt : prompt store.call)
    (stores : store.Stores loss.tenant token) (lasts : Lasts loss.tenant (store :: (middle ++ loss :: after)))
    (member : look ∈ after) (own : look.call = loss.call) : look.CancelsOrFinds := by
  obtain ⟨_, c, found, working, sameTenant, _, polling, ready⟩ := next.caller_of_loses loses
  have present : b.now = loss.instant := next.now_eq
  obtain ⟨x, y, _, stored, since, _⟩ := past.split_cons
  have now : y.now = store.instant := stored.now_eq
  -- the holder would be late if anything happened after it has stored its token and before it gives the lock back
  have atOnce : loss.instant ≤ store.instant := since.instant_le_of_holds stored inTime stores holds storePrompt
  obtain ⟨lastsStore, lastsMiddle, lastsLoss, lastsAfter⟩ : store.StoresLasting loss.tenant ∧ Lasts loss.tenant middle ∧
      (¬ loss.Drops loss.tenant ∧ loss.StoresLasting loss.tenant) ∧ Lasts loss.tenant after := by
    simp only [Lasts, List.forall_mem_cons, List.forall_mem_append] at lasts
    exact ⟨lasts.1.2, lasts.2.1, lasts.2.2.1, lasts.2.2.2⟩
  have lasting : y.HasLasting loss.tenant store.instant :=
    stored.hasLasting_of_stores stores lastsStore (Nat.le_refl _)
  have atLoss : a.HasLasting loss.tenant store.instant := since.run.hasLasting lasting now.ge lastsMiddle
  have order : store.instant ≤ a.now := now ▸ since.run.now_le
  have afterLoss : b.HasLasting loss.tenant store.instant := next.hasLasting atLoss order lastsLoss.1 lastsLoss.2
  have soon : c.ready ≤ store.instant + pollInterval := by omega
  have upTo : store.instant ≤ b.now := Nat.le_trans order (present ▸ next.now_le)
  rw [← sameTenant] at afterLoss lastsAfter
  exact (future.finds_of_hasLasting found working polling soon afterLoss upTo lastsAfter isPrompt).2 look member own

/-- A call that has lost against a holder finds a token after the holder has stored one. -/
theorem PromptRun.finds_of_holderStores {token : Issued} {later : List Event} {look : Event} {left : Nat}
    {stage : Stage} (past : start.PromptRun prompt before a) (inTime : a.IsInTime prompt loss.instant)
    (next : a.Next loss b) (future : b.PromptRun prompt after t) (loses : loss.Loses true) (isPrompt : prompt loss.call)
    (holder : HolderStores prompt a before loss after store later) (stores : store.Stores loss.tenant token)
    (lasts : Lasts loss.tenant (store :: later)) (member : look ∈ later) (own : look.call = loss.call)
    (polls : look.deed = .steps (.polling left) stage) : ∃ found, stage = .finished (.ok (some found)) := by
  cases holder with
  | later first rest split =>
    subst split
    exact (future.finds_of_stores next loses isPrompt stores lasts member own).of_steps polls
  | already first middle split holds storePrompt =>
    subst split
    rcases List.mem_append.mp member with old | new
    · have onTheWay := (past.run.mayAsk_of_loses next loses (by simp [old]) own polls).1
      cases onTheWay
    · rcases List.mem_cons.mp new with rfl | coming
      · obtain ⟨_, deed, _⟩ := loses
        rw [polls] at deed
        cases deed
      · have does := past.finds_of_holds inTime next future loses isPrompt holds storePrompt stores lasts coming own
        exact does.of_steps polls

/-- No time passes while a prompt call stands before the lock. -/
theorem PromptRun.now_eq_of_loses (past : start.Run before x) (since : x.Run middle a) (idle : start.callers = [])
    (inTime : a.IsInTime prompt loss.instant) (next : a.Next loss b) (loses : loss.Loses waits)
    (isPrompt : prompt loss.call) (found : x.callers[loss.call]? = some c) (locking : c.stage = .locking waits) :
    x.now = loss.instant := by
  obtain ⟨d, there, working, same⟩ := next.atWork_of_loses loses
  have reached : c.ready ≤ x.now := past.locksAtOnce idle c (List.mem_of_getElem? found) waits locking
  have order : x.now ≤ loss.instant := Nat.le_trans since.now_le next.now_le
  rcases since.kept_or_nearer found with kept | ⟨d', there', cancelled | nearer⟩
  · have early : loss.instant ≤ d.ready := inTime _ d isPrompt there working
    obtain rfl := Option.some.inj (kept.symm.trans there)
    exact Nat.le_antisymm order (Nat.le_trans early reached)
  · obtain rfl := Option.some.inj (there.symm.trans there')
    rw [(Caller.isAtWork_iff.mp working).1] at cancelled
    cases cancelled
  · obtain rfl := Option.some.inj (there.symm.trans there')
    rw [same, locking] at nearer
    exact absurd nearer (Nat.lt_irrefl _)

theorem PromptRun.progress_of_loses (next : a.Next loss b) (future : b.PromptRun prompt after t)
    (loses : loss.Loses true) (isPrompt : prompt loss.call) :
    b.Progress after t loss.call loss.instant loss.tenant := by
  obtain ⟨_, c, found, working, sameTenant, _, polling, ready⟩ := next.caller_of_loses loses
  have present : b.now = loss.instant := next.now_eq
  have progress := future.progress found working polling (present ▸ ready) isPrompt
  rwa [present, sameTenant] at progress

theorem PromptRun.waitEnds_of_loses (next : a.Next loss b) (future : b.PromptRun prompt after t)
    (loses : loss.Loses true) (isPrompt : prompt loss.call) (ended : t.IsOver loss.call)
    (goesOn : ∀ e ∈ after, e.call = loss.call → ¬ e.Cancels) :
    b.WaitEnds after t loss.call loss.instant loss.tenant := by
  rcases future.progress_of_loses next loses isPrompt with
    ⟨_, c, waits⟩ | ⟨_, ends⟩ | ⟨_, cancel, member, own, cancels⟩
  · obtain ⟨d, there, idle⟩ := ended
    obtain rfl := Option.some.inj (waits.found.symm.trans there)
    rw [waits.isAtWork] at idle
    cases idle
  · exact ends
  · exact absurd cancels (goesOn cancel member own)

/-- A prompt call does not wait for longer than its looks take. -/
theorem PromptRun.isOver_of_loses (next : a.Next loss b) (future : b.PromptRun prompt after t)
    (loses : loss.Loses waits) (isPrompt : prompt loss.call)
    (late : loss.instant + pollAttempts * pollInterval < t.now) : t.IsOver loss.call := by
  cases waits with
  | false =>
    obtain ⟨_, c, found, _, _, _, finished⟩ := next.caller_of_loses loses
    have stage : c.stage = .finished (.ok none) := finished
    exact future.run.over_kept (isOver_of_isFinished found (by rw [stage]; rfl))
  | true =>
    rcases future.progress_of_loses next loses isPrompt with
      ⟨looks, c, waits⟩ | ⟨ended, _⟩ | ⟨ended, _⟩
    · have last : (looks + 1) * pollInterval ≤ pollAttempts * pollInterval := Nat.mul_le_mul_right _ waits.few
      have ready := waits.ready
      have reached := waits.reached
      omega
    · exact ended
    · exact ended

/-- What becomes of a call that tries for the lock and does not win it. It changes nothing from then on, and if it
waits at all, it looks ten times for the token of the holder, half a second apart; every look finds a token once one
was stored that outlasts the pause between two looks. -/
theorem PromptRun.waitsInBounds (past : start.PromptRun prompt before a) (now : a.PromptRun prompt [loss] b)
    (future : b.PromptRun prompt after t) (idle : start.callers = []) (loses : loss.Loses waits) :
    WaitsInBounds prompt start before a loss waits b after t := by
  obtain ⟨next, inTime⟩ := now.single
  obtain ⟨same, c, found, _, _, deed, moved⟩ := next.caller_of_loses loses
  have waiting : c.stage.isWaiting = true := by cases waits <;> simp_all [Stage.isWaiting]
  refine ⟨?_, ⟨same, ?_⟩, ?_, ?_, ?_, future.isOver_of_loses next loses, ?_, ?_⟩
  · intro e member own stage asks
    rcases List.mem_append.mp member with old | new
    · exact (past.run.mayAsk_of_loses next loses old own asks).2 rfl
    · rcases List.mem_cons.mp new with rfl | later
      · rw [deed] at asks
        cases asks
      · obtain ⟨first, rest, x, y, rfl, run, look, _⟩ := future.run.around later
        exact (run.of_isWaiting look (own ▸ found) waiting).2 stage asks
  · rintro first rest e x y rfl run look own
    exact (run.of_isWaiting look (own ▸ found) waiting).1
  · rintro isPrompt first rest x d rfl run since there locking
    exact PromptRun.now_eq_of_loses run since idle inTime next loses isPrompt there locking
  · rintro rfl
    have stage : c.stage = .finished (.ok none) := moved
    rw [deed, stage]
  · rintro isPrompt rfl ended goesOn
    exact future.waitEnds_of_loses next loses isPrompt ended goesOn
  · rintro isPrompt rfl store token later look left stage holder stores lasts member own polls
    exact past.finds_of_holderStores inTime next future loses isPrompt holder stores lasts member own polls
  · rintro isPrompt rfl ended goesOn store token later holder stores lasts early
    rcases future.waitEnds_of_loses next loses isPrompt ended goesOn with ⟨looks, found, few, _, polls⟩ | ⟨_, last⟩
    · exact ⟨looks, found, few, polls⟩
    · obtain ⟨first, look, rest, x, y, left, rfl, _, _, _, own, instant, polls, _⟩ := last
      have member : look ∈ later := holder.mem_of_instant_lt future.run (by simp) (instant ▸ early)
      obtain ⟨found, finds⟩ := past.finds_of_holderStores inTime next future loses isPrompt holder stores lasts member
        own polls
      cases finds

end

namespace Outlasted

def tenant : Credentials := ⟨"wx1", "", "", "", ""⟩

def token : Issued := ⟨"token", 501⟩

def before : List Event :=
  [⟨0, 0, tenant, .begins (.locking true)⟩, ⟨0, 1, tenant, .begins (.locking true)⟩,
    ⟨0, 0, tenant, .steps (.locking true) .asking⟩, ⟨0, 0, tenant, .steps .asking (.awaiting (.ok token))⟩]

def loss : Event := ⟨0, 1, tenant, .steps (.locking true) (.polling 9)⟩

def waiting : List Event :=
  [⟨500, 1, tenant, .steps (.polling 9) (.polling 8)⟩,
    ⟨700, 0, tenant, .steps (.awaiting (.ok token)) (.storing token)⟩]

def store : Event := ⟨700, 0, tenant, .steps (.storing token) (.releasing (.ok "token"))⟩

def later : List Event :=
  [⟨700, 0, tenant, .steps (.releasing (.ok "token")) (.finished (.ok (some "token")))⟩,
    ⟨1000, 1, tenant, .steps (.polling 8) (.finished (.ok (some "token")))⟩]

def after : List Event := waiting ++ store :: later

def answer : Answer := ⟨700, .ok token⟩

def choices : List (Nat × Choice) :=
  [(0, .begin tenant (.locking true)), (0, .begin tenant (.locking true)), (0, .step 0 answer), (0, .step 0 answer)]

def choicesAfter : List (Nat × Choice) :=
  [(500, .step 1 answer), (700, .step 0 answer), (700, .step 0 answer), (700, .step 0 answer), (1000, .step 1 answer)]

theorem exists_run : ∃ a b t, (⟨0, .empty, []⟩ : Traffic).PromptRun (fun _ => True) before a ∧
    a.PromptRun (fun _ => True) [loss] b ∧ b.PromptRun (fun _ => True) after t ∧ t.IsOver loss.call := by
  have played : ∃ a b t, (⟨0, .empty, []⟩ : Traffic).replayPromptly choices = some (before, a) ∧
      a.replayPromptly [(0, .step 1 answer)] = some ([loss], b) ∧
      b.replayPromptly choicesAfter = some (after, t) ∧ ∃ c, t.callers[1]? = some c ∧ c.isAtWork = false :=
    ⟨_, _, _, rfl, rfl, rfl, _, rfl, rfl⟩
  obtain ⟨a, b, t, past, now, future, ended⟩ := played
  exact ⟨a, b, t, replayPromptly_run past, replayPromptly_run now, replayPromptly_run future, ended⟩

theorem lasts : Lasts tenant (store :: later) := by
  intro e member
  simp only [later, List.mem_cons, List.not_mem_nil, or_false] at member
  rcases member with rfl | rfl | rfl
  · refine ⟨by simp [Event.Drops, store], ?_⟩
    rintro _ ⟨_, _, deed⟩
    cases deed
    exact ⟨by decide, by decide⟩
  · exact ⟨by simp [Event.Drops], by simp [Event.StoresLasting, Event.Stores]⟩
  · exact ⟨by simp [Event.Drops], by simp [Event.StoresLasting, Event.Stores]⟩

end Outlasted

/-- A call loses against a holder that stores its token after seven tenths of a second. The token is good for hardly
more than half a second, and the second look finds it. -/
theorem PromptRun.waitsInBounds_of_outlasted : ∃ a b t,
    (⟨0, .empty, []⟩ : Traffic).PromptRun (fun _ => True) Outlasted.before a ∧
      a.PromptRun (fun _ => True) [Outlasted.loss] b ∧ b.PromptRun (fun _ => True) Outlasted.after t ∧
      b.WaitEnds Outlasted.after t 1 0 Outlasted.tenant ∧
      ∃ looks found, looks < pollAttempts ∧ b.Polls Outlasted.after t 1 ((looks + 1) * pollInterval) (some found)
        (.finished (.ok (some found))) := by
  obtain ⟨a, b, t, past, now, future, ended⟩ := Outlasted.exists_run
  have loses : Outlasted.loss.Loses true := ⟨_, rfl, by simp⟩
  have bounds := past.waitsInBounds now future rfl loses
  have goesOn : ∀ e ∈ Outlasted.after, e.call = Outlasted.loss.call → ¬ e.Cancels := by
    simp [Outlasted.after, Outlasted.waiting, Outlasted.store, Outlasted.later, Event.Cancels]
  obtain ⟨looks, found, few, polls⟩ := bounds.obtains trivial rfl ended goesOn Outlasted.store Outlasted.token
    Outlasted.later (.later Outlasted.waiting _ rfl) ⟨rfl, _, rfl⟩ Outlasted.lasts (by decide)
  refine ⟨a, b, t, past, now, future, bounds.ends trivial rfl ended goesOn, looks, found, few, ?_⟩
  have zero : Outlasted.loss.instant = 0 := rfl
  rwa [zero, Nat.zero_add] at polls

end Traffic
end ReplyGateway.Token
