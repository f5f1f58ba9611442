import ReplyGateway.Error
import ReplyGateway.KeyValue
import ReplyGateway.Tenant

namespace ReplyGateway.Token

/-- A token with less than this left, in milliseconds, is renewed while it is still in use. -/
def lowWater : Nat := 300000

/-- The longest that a token is kept, in milliseconds. -/
def maxLifetime : Nat := 24 * 60 * 60 * 1000

/-- How long a lock holds, in milliseconds, if it is not released. -/
def lockLifetime : Nat := 10000

/-- The text that stands for a held lock. -/
def lockMark : String := "1"

/-- How long a call that did not win the lock waits before it looks for the token again, in milliseconds. -/
def pollInterval : Nat := 500

/-- How often it looks. -/
def pollAttempts : Nat := 10

structure Issued where
  value : String
  /-- How long the token is good for, in milliseconds. -/
  lifetime : Nat
  deriving DecidableEq, Repr

/-- What an issuer says, and how many milliseconds it takes to say it. -/
structure Answer where
  delay : Nat
  result : Except Error Issued

/-- An issuer of tokens, with a state of its own. -/
abbrev Issuer (σ : Type) := Credentials → σ → Answer × σ

/-- The stages of a call for the access token of a tenant. Gateways that share a store renew a token one at a time:
who wants to renew it first has to win a lock, which is an entry of the store that expires by itself. A stage does one
operation on the store or gets one answer, so that the stages of several calls may interleave in any order. -/
inductive Stage
  /-- Looks for a token in the store. -/
  | reading
  /-- Has a token, and looks how long it is still good for. -/
  | measuring (token : String)
  /-- Throws away the token in the store. -/
  | dropping
  /-- Tries to win the lock; the flag tells whether to wait for the token of the holder otherwise. -/
  | locking (waits : Bool)
  /-- Has the lock, and asks for a token. -/
  | asking
  /-- Has asked, and will get this answer. -/
  | awaiting (result : Except Error Issued)
  /-- Puts a token into the store. -/
  | storing (token : Issued)
  /-- Gives the lock back. -/
  | releasing (outcome : Except Error String)
  /-- Looks for the token of the holder, and then at most so many more times. -/
  | polling (more : Nat)
  /-- Has ended with an error, or with a token if it got one. -/
  | finished (outcome : Except Error (Option String))

structure Move (σ : Type) where
  stage : Stage
  store : KeyValue
  issuer : σ
  /-- The milliseconds that have to pass before the next step. -/
  pause : Nat

/-- The token in a store; an empty text is none. -/
def stored? (store : KeyValue) (now : Nat) (tenant : Credentials) : Option String :=
  (store.get? now tenant.accessTokenKey).filter (· ≠ "")

/-- Whether the token in a store has to be renewed although it is still good. -/
def isLow (store : KeyValue) (now : Nat) (tenant : Credentials) : Bool :=
  (store.lifetime? now tenant.accessTokenKey).any fun left => decide (left < lowWater)

/-- The error of a call that has waited for the holder of the lock in vain. -/
def timedOut (tenant : Credentials) : Error :=
  .credential s!"timed out waiting for token refresh of {tenant.tenantId}"

namespace Stage

variable {σ : Type}

/-- One step of a call for the token of a tenant. -/
def step (issuer : Issuer σ) (tenant : Credentials) (now : Nat) (store : KeyValue) (state : σ) : Stage → Move σ
  | reading =>
    match stored? store now tenant with
    | some token => ⟨measuring token, store, state, 0⟩
    | none => ⟨locking true, store, state, 0⟩
  | measuring token => ⟨finished (.ok (some token)), store, state, 0⟩
  | dropping => ⟨locking true, store.delete tenant.accessTokenKey, state, 0⟩
  | locking waits =>
    match store.setIfAbsent? now tenant.lockKey lockMark lockLifetime, waits with
    | some store, _ => ⟨asking, store, state, 0⟩
    | none, true => ⟨polling (pollAttempts - 1), store, state, pollInterval⟩
    | none, false => ⟨finished (.ok none), store, state, 0⟩
  | asking =>
    let (answer, state) := issuer tenant state
    ⟨awaiting answer.result, store, state, answer.delay⟩
  | awaiting (.ok token) => ⟨storing token, store, state, 0⟩
  | awaiting (.error e) => ⟨releasing (.error e), store, state, 0⟩
  | storing token =>
    ⟨releasing (.ok token.value),
      store.set now tenant.accessTokenKey token.value (some (min token.lifetime maxLifetime)), state, 0⟩
  | releasing outcome => ⟨finished (outcome.map some), store.delete tenant.lockKey, state, 0⟩
  | polling more =>
    match stored? store now tenant, more with
    | some token, _ => ⟨finished (.ok (some token)), store, state, 0⟩
    | none, 0 => ⟨finished (.error (timedOut tenant)), store, state, 0⟩
    | none, more + 1 => ⟨polling more, store, state, pollInterval⟩
  | finished outcome => ⟨finished outcome, store, state, 0⟩

/-- Whether a step starts a renewal that goes on beside the call. -/
def startsRenewal (tenant : Credentials) (now : Nat) (store : KeyValue) : Stage → Bool
  | measuring _ => isLow store now tenant
  | _ => false

/-- Where a renewal begins that nobody waits for. -/
def renewal : Stage := locking false

def isFinished : Stage → Bool
  | finished _ => true
  | _ => false

/-- What a call has come to. -/
def outcome? : Stage → Option (Except Error (Option String))
  | finished outcome => some outcome
  | _ => none

/-- A bound on the steps to the end, those of a renewal that the call may start included. -/
def rank : Stage → Nat
  | finished _ => 0
  | releasing _ => 1
  | storing _ => 2
  | awaiting _ => 3
  | asking => 4
  | polling more => more + 1
  | locking _ => 11
  | dropping => 12
  | measuring _ => 12
  | reading => 13

/-- A call comes nearer to its end with every step, also when it starts a renewal beside itself. -/
theorem rank_step_lt (issuer : Issuer σ) (tenant : Credentials) (now : Nat) (store : KeyValue) (state : σ)
    {s : Stage} (h : s.isFinished = false) :
    (s.step issuer tenant now store state).stage.rank +
      (if s.startsRenewal tenant now store then renewal.rank else 0) < s.rank := by
  cases s with
  | reading => simp only [step]; split <;> simp [startsRenewal, rank]
  | measuring =>
    by_cases low : isLow store now tenant = true <;> simp [step, startsRenewal, rank, renewal, low]
  | dropping => simp [step, startsRenewal, rank]
  | locking => simp only [step]; split <;> simp [startsRenewal, rank, pollAttempts]
  | asking => simp [step, startsRenewal, rank]
  | awaiting result => cases result <;> simp [step, startsRenewal, rank]
  | storing => simp [step, startsRenewal, rank]
  | releasing => simp [step, startsRenewal, rank]
  | polling => simp only [step]; split <;> simp [startsRenewal, rank]
  | finished => cases h

end Stage
end ReplyGateway.Token
