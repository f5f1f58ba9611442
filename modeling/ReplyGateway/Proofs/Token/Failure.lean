import Mathlib
import ReplyGateway.Proofs.Token.Lease
import ReplyGateway.Proofs.Token.Replacement
import ReplyGateway.Proofs.Token.Revocation
import ReplyGateway.Proofs.Token.Sequence
import ReplyGateway.Proofs.Token.Solo

namespace ReplyGateway.Token

section Look

variable {store : KeyValue} {tenant : Credentials} {entry : KeyValue.Entry} {now : Nat}

theorem stored?_of_entry (found : store.entries.get? tenant.accessTokenKey = some entry)
    (live : entry.isLive now = true) (nonempty : entry.value ≠ "") : stored? store now tenant = some entry.value := by
  have here : store.live? now tenant.accessTokenKey = some entry := by
    rw [KeyValue.live?, found, Option.filter, if_pos live]
  rw [stored?, KeyValue.get?, here]
  simp [nonempty]

end Look

namespace Stage

/-- Whether a call does nothing to the token in the store, unless the issuer is going to give it one. -/
def sparesToken : Stage → Bool
  | dropping | storing _ | awaiting (.ok _) => false
  | _ => true

theorem sparesToken_move (answer : Answer) (tenant : Credentials) (now : Nat) (store : KeyValue) {s : Stage}
    (fails : ∃ e, answer.result = .error e) (spares : s.sparesToken = true) :
    (s.move answer tenant now store).stage.sparesToken = true := by
  cases s with
  | reading => simp only [move, step]; split <;> rfl
  | locking => simp only [move, step]; split <;> rfl
  | asking =>
    obtain ⟨e, failed⟩ := fails
    simp [move, step, failed, sparesToken]
  | awaiting result =>
    cases result with
    | error e => rfl
    | ok token => cases spares
  | polling => simp only [move, step]; split <;> rfl
  | _ => rfl

/-- A call that has found the token gives it. -/
def Gives (value : String) (s : Stage) : Prop := s = measuring value ∨ s = finished (.ok (some value))

theorem Gives.move {value : String} {s : Stage} (gives : s.Gives value) (answer : Answer) (tenant : Credentials)
    (now : Nat) (store : KeyValue) : (s.move answer tenant now store).stage.Gives value := by
  rcases gives with rfl | rfl
  · exact .inr rfl
  · exact .inr rfl

end Stage

namespace Traffic

variable {start s t u : Traffic} {e look : Event} {events before after : List Event} {tenant : Credentials}
  {entry : KeyValue.Entry}

/-- Without an answer that gives a token, the entry stays as it is, in any order of calls. -/
theorem Run.token_kept_of_fails (run : start.Run events t) (idle : start.callers = []) (reads : BeginReading events)
    (fails : ∀ e ∈ events, ∀ token, ¬ e.Asks tenant token) :
    t.store.entries.get? tenant.accessTokenKey = start.store.entries.get? tenant.accessTokenKey := by
  rcases Run.start.token_kept_or_stored idle reads run tenant with same | ⟨e, member, token, stores, _⟩
  · exact same
  · obtain ⟨ask, among, _, asks⟩ := run.asked_of_mem_stores idle member stores
    exact absurd asks (fails ask among token)

/-- Whoever looks for the token before it expires is going to give it. -/
theorem Run.gives_of_look {stage : Stage} (run : start.Run events t) (idle : start.callers = [])
    (reads : BeginReading events) (fails : ∀ e ∈ events, ∀ token, ¬ e.Asks tenant token)
    (found : start.store.entries.get? tenant.accessTokenKey = some entry) (nonempty : entry.value ≠ "")
    (member : look ∈ events) (own : look.tenant.tenantId = tenant.tenantId) (deed : look.deed = .steps .reading stage)
    (live : entry.isLive look.instant = true) : ∃ c, t.callers[look.call]? = some c ∧ c.stage.Gives entry.value := by
  obtain ⟨first, rest, a, b, rfl, past, next, since⟩ := run.around member
  have readsBefore : BeginReading first := fun e inFirst => reads e (List.mem_append_left _ inFirst)
  have failsBefore : ∀ e ∈ first, ∀ token, ¬ e.Asks tenant token :=
    fun e inFirst => fails e (List.mem_append_left _ inFirst)
  have kept := past.token_kept_of_fails idle readsBefore failsBefore
  have key := Credentials.accessTokenKey_inj.mpr own
  have stored : stored? a.store look.instant look.tenant = some entry.value := by
    refine stored?_of_entry ?_ live nonempty
    rw [key, kept, found]
  obtain ⟨_, answer, d, _, _, _, moved, there, _, same⟩ := next.caller_of_steps deed
  have gives : d.stage.Gives entry.value := by
    rw [same, moved]
    simp [Stage.Gives, Stage.move, Stage.step, stored]
  exact since.caller_keeps (p := fun _ stage => stage.Gives entry.value)
    (fun answer tenant now store _ gives => gives.move answer tenant now store) there gives

/-- Whoever looks for the token before it expires ends with it. -/
theorem Run.finished_of_look {stage : Stage} {c : Caller} {outcome : Except Error (Option String)}
    (run : start.Run events t) (idle : start.callers = []) (reads : BeginReading events)
    (fails : ∀ e ∈ events, ∀ token, ¬ e.Asks tenant token)
    (found : start.store.entries.get? tenant.accessTokenKey = some entry) (nonempty : entry.value ≠ "")
    (member : look ∈ events) (own : look.tenant.tenantId = tenant.tenantId) (deed : look.deed = .steps .reading stage)
    (live : entry.isLive look.instant = true) (caller : t.callers[look.call]? = some c)
    (finished : c.stage = .finished outcome) : outcome = .ok (some entry.value) := by
  obtain ⟨d, there, gives⟩ := run.gives_of_look idle reads fails found nonempty member own deed live
  obtain rfl := Option.some.inj (there.symm.trans caller)
  rcases gives with measuring | given
  · rw [finished] at measuring
    cases measuring
  · rw [finished] at given
    exact Stage.finished.inj given

end Traffic

/-- An issuer that gives a tenant no token. -/
def Issuer.Fails {σ : Type} (issuer : Issuer σ) (tenant : Credentials) : Prop :=
  ∀ credentials : Credentials, credentials.tenantId = tenant.tenantId →
    ∀ state, ∃ e, (issuer credentials state).1.result = .error e

namespace Schedule

variable {σ : Type} {issuer : Issuer σ} {tenant : Credentials} {entry : KeyValue.Entry} {s : Schedule σ}
  {before after : List Task} {t : Task}

/-- The token is there, and nobody is about to store another one or to throw it away. -/
structure Spares (s : Schedule σ) (tenant : Credentials) (entry : KeyValue.Entry) : Prop where
  found : s.store.entries.get? tenant.accessTokenKey = some entry
  tasks : ∀ t ∈ s.tasks, t.tenant.tenantId = tenant.tenantId → t.stage.sparesToken = true

theorem Spares.advance (spares : s.Spares tenant entry) (fails : issuer.Fails tenant)
    (tasks : s.tasks = before ++ t :: after) : (s.advance issuer before t after).Spares tenant entry := by
  have spare (own : t.tenant.tenantId = tenant.tenantId) : t.stage.sparesToken = true :=
    spares.tasks t (tasks ▸ by simp) own
  constructor
  · rcases token_advance_cases issuer s before t after tenant with ⟨_, own, storing, _⟩ | ⟨own, dropping, _⟩ | same
    · rw [storing] at spare
      cases spare own
    · rw [dropping] at spare
      cases spare own
    · exact same.trans spares.found
  · intro u member own
    simp only [Schedule.advance, List.mem_append, List.mem_cons] at member
    rcases member with old | rfl | old | new
    · exact spares.tasks u (tasks ▸ List.mem_append_left _ old) own
    · simp only at own ⊢
      rw [(t.stage.step_eq_move t.tenant (max s.now t.ready) s.store issuer s.issuer).1]
      exact Stage.sparesToken_move _ t.tenant (max s.now t.ready) s.store (fails t.tenant own s.issuer) (spare own)
    · exact spares.tasks u (tasks ▸ by simp [old]) own
    · split at new
      · rw [List.mem_singleton.mp new]
        rfl
      · cases new

/-- A run of the schedule spares it, step by step. -/
theorem Spares.runWhile (goesOn : Schedule σ → Task → Bool) (spares : s.Spares tenant entry)
    (fails : issuer.Fails tenant) : (s.runWhile issuer goesOn).Spares tenant entry :=
  runWhile_keeps issuer (·.Spares tenant entry)
    (fun spares found => spares.advance fails (Task.next?_eq_some found).1) goesOn spares

theorem Spares.runUntil (instant : Nat) (spares : s.Spares tenant entry) (fails : issuer.Fails tenant) :
    (s.runUntil issuer instant).Spares tenant entry := by
  have ran := spares.runWhile (fun _ t => decide (t.ready ≤ instant)) fails
  exact ⟨ran.found, fun t member => ran.tasks t (List.mem_of_mem_filter member)⟩

theorem Spares.begun {stage : Stage} (spares : s.Spares tenant entry) (spare : stage.sparesToken = true) :
    (s.begun tenant stage).Spares tenant entry := by
  refine ⟨spares.found, fun t member ofTenant => ?_⟩
  rcases List.mem_cons.mp member with rfl | old
  · exact spare
  · exact spares.tasks t old ofTenant

/-- The call that stands first looks for the token at an instant, or has found it. -/
def FirstGives (s : Schedule σ) (tenant : Credentials) (instant : Nat) (value : String) : Prop :=
  ∃ t rest, s.tasks = t :: rest ∧ t.tenant = tenant ∧
    ((t.stage = .reading ∧ t.ready = instant ∧ s.now ≤ instant) ∨ t.stage.Gives value)

theorem FirstGives.advance {instant : Nat} (first : s.FirstGives tenant instant entry.value)
    (spares : s.Spares tenant entry) (live : entry.isLive instant = true) (nonempty : entry.value ≠ "")
    (found : Task.next? s.tasks = some (before, t, after)) :
    (s.advance issuer before t after).FirstGives tenant instant entry.value := by
  obtain ⟨f, rest, tasks, rfl, stage⟩ := first
  obtain ⟨split, working⟩ := Task.next?_eq_some found
  rw [tasks] at split
  cases before with
  | nil =>
    obtain ⟨rfl, rfl⟩ := List.cons.inj split
    refine ⟨_, _, rfl, rfl, .inr ?_⟩
    simp only [(f.stage.step_eq_move f.tenant (max s.now f.ready) s.store issuer s.issuer).1]
    rcases stage with ⟨reading, rfl, early⟩ | gives
    · have stored := stored?_of_entry spares.found live nonempty
      simp [Stage.Gives, Stage.move, Stage.step, reading, Nat.max_eq_right early, stored]
    · exact gives.move _ _ _ _
  | cons g before =>
    obtain ⟨rfl, _⟩ := List.cons.inj split
    refine ⟨f, _, rfl, rfl, stage.imp_left ?_⟩
    rintro ⟨reading, atInstant, early⟩
    have busy : f.isWorking = true := by simp [Task.isWorking, reading, Stage.isFinished]
    have notAfter := Task.ready_le_of_next? found (tasks ▸ List.mem_cons_self) busy
    exact ⟨reading, atInstant, Nat.max_le.mpr ⟨early, atInstant ▸ notAfter⟩⟩

/-- A run brings the call that stands first from its look to the token. -/
theorem FirstGives.runWhile {instant : Nat} (goesOn : Schedule σ → Task → Bool) (fails : issuer.Fails tenant)
    (live : entry.isLive instant = true) (nonempty : entry.value ≠ "") (spares : s.Spares tenant entry)
    (first : s.FirstGives tenant instant entry.value) :
    (s.runWhile issuer goesOn).FirstGives tenant instant entry.value := by
  refine (runWhile_keeps issuer (fun s => s.Spares tenant entry ∧ s.FirstGives tenant instant entry.value)
    (fun both found => ?_) goesOn ⟨spares, first⟩).2
  obtain ⟨spares, first⟩ := both
  exact ⟨spares.advance fails (Task.next?_eq_some found).1, first.advance spares live nonempty found⟩

/-- A token that is there is had at once, and it stays there, whatever renewals go on beside. -/
theorem token_of_spares (spares : s.Spares tenant entry) (fails : issuer.Fails tenant) (nonempty : entry.value ≠ "") :
    (s.token issuer tenant).1.Spares tenant entry ∧
      (entry.isLive s.now = true → (s.token issuer tenant).2 = .ok entry.value) := by
  have begun : (s.begun tenant .reading).Spares tenant entry := spares.begun rfl
  obtain ⟨ran, t, rest, ran_eq, tasks, finished, called⟩ := exists_call_eq issuer s tenant .reading
  have kept : ran.Spares tenant entry := ran_eq ▸ begun.runWhile _ fails
  have given : entry.isLive s.now = true → ran.FirstGives tenant s.now entry.value := fun live =>
    ran_eq ▸ FirstGives.runWhile _ fails live nonempty begun ⟨_, _, rfl, rfl, .inl ⟨rfl, rfl, Nat.le_refl _⟩⟩
  have others : ({ ran with tasks := rest } : Schedule σ).Spares tenant entry :=
    ⟨kept.found, fun u member => kept.tasks u (tasks ▸ List.mem_cons_of_mem _ member)⟩
  constructor
  · rw [token, called]
    exact others.runUntil _ fails
  · intro live
    obtain ⟨f, more, tasks', _, stage⟩ := given live
    obtain ⟨rfl, rfl⟩ := List.cons.inj (tasks.symm.trans tasks')
    have gives : t.stage = .finished (.ok (some entry.value)) := by
      rcases stage with ⟨reading, _⟩ | measuring | gives
      · rw [reading] at finished
        cases finished
      · rw [measuring] at finished
        cases finished
      · exact gives
    rw [token, called, gives]
    rfl

/-- Gets the token again and again, after some pauses. Every token comes with the instant at which it was asked for. -/
def tokens (issuer : Issuer σ) (tenant : Credentials) :
    List Nat → Schedule σ → Schedule σ × List (Nat × Except Error String)
  | [], s => (s, [])
  | pause :: pauses, s =>
    let rested := s.sleep issuer pause
    let (s, result) := rested.token issuer tenant
    let (s, more) := tokens issuer tenant pauses s
    (s, (rested.now, result) :: more)

/-- By induction on the pauses: every call that comes before the token expires gets it. -/
theorem tokens_of_spares (spares : s.Spares tenant entry) (fails : issuer.Fails tenant) (nonempty : entry.value ≠ "")
    (pauses : List Nat) :
    (s.tokens issuer tenant pauses).1.Spares tenant entry ∧
      ∀ given ∈ (s.tokens issuer tenant pauses).2, entry.isLive given.1 = true → given.2 = .ok entry.value := by
  induction pauses generalizing s with
  | nil => exact ⟨spares, by simp [tokens]⟩
  | cons pause pauses ih =>
    have rested : (s.sleep issuer pause).Spares tenant entry := spares.runUntil _ fails
    obtain ⟨kept, result⟩ := token_of_spares rested fails nonempty
    obtain ⟨last, more⟩ := ih kept
    refine ⟨last, fun given member live => ?_⟩
    rcases List.mem_cons.mp member with rfl | later
    · exact result live
    · exact more given later live

/-- What a renewal leaves behind that wins the lock and that nobody disturbs: no lock, no change of any other key, and
no change of the token if it fails. So as long as renewals fail, a token that is there is the one that calls get until
it expires, one after another with any pauses, and side by side in any order. -/
theorem call_locking_leavesClean (issuer : Issuer σ) (tenant : Credentials) :
    (∀ (s : Schedule σ) (waits : Bool), s.store.live? s.now tenant.lockKey = none →
      IsQuiet s.tasks (s.now + (issuer tenant s.issuer).1.delay) →
      ∃ after outcome, s.call issuer tenant (.locking waits) = (after, outcome) ∧
        after.store.entries.get? tenant.lockKey = none ∧
        (∀ key, key ≠ tenant.accessTokenKey → key ≠ tenant.lockKey →
          after.store.entries.get? key = s.store.entries.get? key) ∧
        (∀ e, (issuer tenant s.issuer).1.result = .error e → outcome = .error e ∧
          after.store.entries.get? tenant.accessTokenKey = s.store.entries.get? tenant.accessTokenKey) ∧
        (∀ token, (issuer tenant s.issuer).1.result = .ok token → outcome = .ok (some token.value) ∧
          after.store.entries.get? tenant.accessTokenKey = some ⟨token.value,
            KeyValue.expiry (s.now + (issuer tenant s.issuer).1.delay) (min token.lifetime maxLifetime)⟩) ∧
        ∀ now, (after.store.setIfAbsent? now tenant.lockKey lockMark lockLifetime).isSome = true) ∧
    (∀ (s : Schedule σ) (entry : KeyValue.Entry) (pauses : List Nat), s.Spares tenant entry → issuer.Fails tenant →
      entry.value ≠ "" → (s.tokens issuer tenant pauses).1.store.entries.get? tenant.accessTokenKey = some entry ∧
        ∀ given ∈ (s.tokens issuer tenant pauses).2, entry.isLive given.1 = true → given.2 = .ok entry.value) ∧
    ∀ (start t : Traffic) (events : List Event) (entry : KeyValue.Entry), start.Run events t → start.callers = [] →
      Traffic.BeginReading events → (∀ e ∈ events, ∀ token, ¬ e.Asks tenant token) →
      start.store.entries.get? tenant.accessTokenKey = some entry → entry.value ≠ "" →
      t.store.entries.get? tenant.accessTokenKey = some entry ∧
        ∀ look ∈ events, look.tenant.tenantId = tenant.tenantId → ∀ stage, look.deed = .steps .reading stage →
          entry.isLive look.instant = true → ∀ c outcome, t.callers[look.call]? = some c →
          c.stage = .finished outcome → outcome = .ok (some entry.value) := by
  refine ⟨?alone, ?sequence, ?traffic⟩
  case alone =>
    intro s waits free quiet
    have token := renewed_token s.store s.now tenant (issuer tenant s.issuer).1
    refine ⟨_, _, call_locking issuer waits free quiet, renewed_lock .., fun key notToken notLock =>
      renewed_of_ne _ _ _ _ notToken notLock, ?_, ?_, setIfAbsent?_renewed _ _ _ _⟩
    · intro e failed
      rw [failed] at token ⊢
      exact ⟨rfl, token⟩
    · intro issued given
      rw [given] at token ⊢
      exact ⟨rfl, token⟩
  case sequence =>
    intro s entry pauses spares fails nonempty
    obtain ⟨last, given⟩ := tokens_of_spares spares fails nonempty pauses
    exact ⟨last.found, given⟩
  case traffic =>
    intro start t events entry run idle reads fails found nonempty
    refine ⟨(run.token_kept_of_fails idle reads fails).trans found, ?_⟩
    intro look member own stage deed live c outcome caller finished
    exact run.finished_of_look idle reads fails found nonempty member own deed live caller finished

end Schedule

namespace Down

def tenant : Credentials := ⟨"wx1", "", "", "", ""⟩

def issuer : Issuer Nat := fun _ asked => (⟨100, .error (.transport none)⟩, asked + 1)

def entry : KeyValue.Entry := ⟨"token", some 200000⟩

def store : KeyValue := KeyValue.empty.set 0 tenant.accessTokenKey "token" (some 200000)

def schedule : Schedule Nat := ⟨0, store, 0, []⟩

/-- A call gets the token and starts a renewal, which fails before the next call comes. -/
def choices : List (Nat × Choice) :=
  let answer : Answer := ⟨100, .error (.transport none)⟩
  [(0, .begin tenant .reading), (0, .step 0 answer), (0, .step 0 answer), (0, .step 1 answer), (0, .step 1 answer),
    (100, .step 1 answer), (100, .step 1 answer), (199999, .begin tenant .reading), (199999, .step 2 answer),
    (199999, .step 2 answer)]

def events : List Event :=
  [⟨0, 0, tenant, .begins .reading⟩, ⟨0, 0, tenant, .steps .reading (.measuring "token")⟩,
    ⟨0, 0, tenant, .steps (.measuring "token") (.finished (.ok (some "token")))⟩,
    ⟨0, 1, tenant, .steps (.locking false) .asking⟩,
    ⟨0, 1, tenant, .steps .asking (.awaiting (.error (.transport none)))⟩,
    ⟨100, 1, tenant, .steps (.awaiting (.error (.transport none))) (.releasing (.error (.transport none)))⟩,
    ⟨100, 1, tenant, .steps (.releasing (.error (.transport none))) (.finished (.error (.transport none)))⟩,
    ⟨199999, 2, tenant, .begins .reading⟩, ⟨199999, 2, tenant, .steps .reading (.measuring "token")⟩,
    ⟨199999, 2, tenant, .steps (.measuring "token") (.finished (.ok (some "token")))⟩]

theorem exists_run : ∃ t, (⟨0, store, []⟩ : Traffic).Run events t := by
  have played : ∃ t, (⟨0, store, []⟩ : Traffic).replay choices = some (events, t) := ⟨_, rfl⟩
  obtain ⟨t, played⟩ := played
  exact ⟨t, Traffic.replay_run played⟩

end Down

/-- A token that is soon over, and an issuer that is down. -/
theorem Schedule.call_locking_leavesClean_of_down :
    (∃ after, Down.schedule.call Down.issuer Down.tenant (.locking false) = (after, .error (.transport none)) ∧
      after.store.entries.get? Down.tenant.lockKey = none ∧
      after.store.entries.get? Down.tenant.accessTokenKey = some Down.entry) ∧
    (∀ given ∈ (Down.schedule.tokens Down.issuer Down.tenant [0, 150000, 49999]).2, Down.entry.isLive given.1 = true →
      given.2 = .ok "token") ∧
    ∃ t, (⟨0, Down.store, []⟩ : Traffic).Run Down.events t ∧
      t.store.entries.get? Down.tenant.accessTokenKey = some Down.entry := by
  obtain ⟨alone, sequence, traffic⟩ := Schedule.call_locking_leavesClean Down.issuer Down.tenant
  obtain ⟨t, run⟩ := Down.exists_run
  refine ⟨?_, ?_, t, run, ?_⟩
  · obtain ⟨after, outcome, called, unlocked, _, failed, _⟩ := alone Down.schedule false rfl nofun
    obtain ⟨rfl, kept⟩ := failed _ rfl
    exact ⟨after, called, unlocked, kept⟩
  · have fails : Down.issuer.Fails Down.tenant := fun _ _ _ => ⟨_, rfl⟩
    have spares : Down.schedule.Spares Down.tenant Down.entry := ⟨rfl, nofun⟩
    exact (sequence _ _ [0, 150000, 49999] spares fails (by decide)).2
  · have reads : Traffic.BeginReading Down.events := by simp [Traffic.BeginReading, Down.events]
    have fails : ∀ e ∈ Down.events, ∀ token, ¬ e.Asks Down.tenant token := by simp [Down.events, Event.Asks]
    exact (traffic _ _ _ _ run rfl reads fails rfl (by decide)).1

end ReplyGateway.Token
