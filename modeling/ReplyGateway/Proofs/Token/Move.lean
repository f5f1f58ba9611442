import Mathlib
import ReplyGateway.Token.Call

namespace ReplyGateway

namespace Credentials

/-- No token has the key of a lock, whatever the names of the tenants are. -/
theorem accessTokenKey_ne_lockKey (a b : Credentials) : a.accessTokenKey ≠ b.lockKey := by
  intro same
  have last := congrArg (fun key => key.toList.getLast?) same
  simp [accessTokenKey, lockKey, accessTokenSuffix, lockSuffix, String.toList_append] at last

theorem accessTokenKey_inj {a b : Credentials} : a.accessTokenKey = b.accessTokenKey ↔ a.tenantId = b.tenantId := by
  simp [accessTokenKey]

/-- Every tenant has a lock of its own. -/
theorem lockKey_inj {a b : Credentials} : a.lockKey = b.lockKey ↔ a.tenantId = b.tenantId := by
  simp [lockKey]

end Credentials

namespace KeyValue

theorem isLive_expiry {value : String} {written lifetime now : Nat} (early : now < written + lifetime) :
    Entry.isLive ⟨value, expiry written lifetime⟩ now = true := by
  unfold Entry.isLive expiry
  split <;> simp [early]

/-- What was set for a lifetime is there until the lifetime is over. -/
theorem live?_of_early {store : KeyValue} {key value : String} {written lifetime now : Nat}
    (entry : store.entries.get? key = some ⟨value, expiry written lifetime⟩) (early : now < written + lifetime) :
    store.live? now key = some ⟨value, expiry written lifetime⟩ := by
  rw [live?, entry, Option.filter, if_pos (isLive_expiry early)]

end KeyValue

namespace Token

namespace Stage

/-- The stages that a caller can begin with. -/
def isEntry : Stage → Bool
  | reading | dropping | locking _ => true
  | _ => false

/-- Whether a call stands between winning the lock and giving it back. -/
def isHolding : Stage → Bool
  | asking | awaiting _ | storing _ | releasing _ => true
  | _ => false

/-- The token that was issued for a call and is not stored yet. -/
def issued? : Stage → Option Issued
  | awaiting (.ok token) | storing token => some token
  | _ => none

/-- The step of a call to which the issuer, if it is asked, gives this answer. -/
def move (answer : Answer) (tenant : Credentials) (now : Nat) (store : KeyValue) (s : Stage) : Move Unit :=
  s.step (fun _ _ => (answer, ())) tenant now store ()

theorem isHolding_of_issued? {s : Stage} {token : Issued} (has : s.issued? = some token) : s.isHolding = true := by
  cases s <;> simp_all [issued?, isHolding]

theorem not_isHolding_of_isEntry {s : Stage} (entry : s.isEntry = true) : s.isHolding = false := by
  cases s <;> simp_all [isEntry, isHolding]

section

variable (answer : Answer) (tenant : Credentials) (now : Nat) (store : KeyValue)

/-- An issuer is asked at most once in a step, so that only its answer there counts. -/
theorem step_eq_move {σ : Type} (issuer : Issuer σ) (state : σ) (s : Stage) :
    let step := s.step issuer tenant now store state
    let move := s.move (issuer tenant state).1 tenant now store
    step.stage = move.stage ∧ step.store = move.store ∧ step.pause = move.pause := by
  cases s with
  | reading => simp only [Stage.move, step]; split <;> exact ⟨rfl, rfl, rfl⟩
  | locking => simp only [Stage.move, step]; split <;> exact ⟨rfl, rfl, rfl⟩
  | awaiting result => cases result <;> exact ⟨rfl, rfl, rfl⟩
  | polling => simp only [Stage.move, step]; split <;> exact ⟨rfl, rfl, rfl⟩
  | _ => exact ⟨rfl, rfl, rfl⟩

/-- A step keeps to the two keys of its tenant. -/
theorem entries_move_of_ne {key : String} (s : Stage) (token : tenant.accessTokenKey ≠ key)
    (lock : tenant.lockKey ≠ key) :
    (s.move answer tenant now store).store.entries.get? key = store.entries.get? key := by
  cases s with
  | reading => simp only [move, step]; split <;> rfl
  | dropping => exact Table.get?_erase_of_ne token
  | locking =>
    simp only [move, step]
    split
    · rename_i won
      obtain ⟨_, rfl⟩ := by simpa [KeyValue.setIfAbsent?] using won
      exact Table.get?_put_of_ne lock
    · rfl
    · rfl
  | awaiting result => cases result <;> rfl
  | storing => exact Table.get?_put_of_ne token
  | releasing => exact Table.get?_erase_of_ne lock
  | polling => simp only [move, step]; split <;> rfl
  | _ => rfl

/-- A step depends on the two keys of its tenant only, and does to every key the same where the same was there. -/
theorem move_congr {other : KeyValue}
    (token : other.entries.get? tenant.accessTokenKey = store.entries.get? tenant.accessTokenKey)
    (lock : other.entries.get? tenant.lockKey = store.entries.get? tenant.lockKey) (s : Stage) :
    (s.move answer tenant now other).stage = (s.move answer tenant now store).stage ∧
      (s.move answer tenant now other).pause = (s.move answer tenant now store).pause ∧
      s.startsRenewal tenant now other = s.startsRenewal tenant now store ∧
      ∀ key, other.entries.get? key = store.entries.get? key →
        (s.move answer tenant now other).store.entries.get? key =
          (s.move answer tenant now store).store.entries.get? key := by
  have stored : stored? other now tenant = stored? store now tenant := by
    rw [stored?, stored?, KeyValue.get?, KeyValue.get?, KeyValue.live?, KeyValue.live?, token]
  have low : isLow other now tenant = isLow store now tenant := by
    rw [isLow, isLow, KeyValue.lifetime?, KeyValue.lifetime?, KeyValue.live?, KeyValue.live?, token]
  have put {key written : String} {e : KeyValue.Entry} (same : other.entries.get? key = store.entries.get? key) :
      (other.entries.put written e).get? key = (store.entries.put written e).get? key := by
    by_cases own : written = key
    · rw [own, Table.get?_put_self, Table.get?_put_self]
    · rw [Table.get?_put_of_ne own, Table.get?_put_of_ne own, same]
  have erase {key erased : String} (same : other.entries.get? key = store.entries.get? key) :
      (other.entries.erase erased).get? key = (store.entries.erase erased).get? key := by
    by_cases own : erased = key
    · rw [own, Table.get?_erase_self, Table.get?_erase_self]
    · rw [Table.get?_erase_of_ne own, Table.get?_erase_of_ne own, same]
  cases s with
  | reading =>
    simp only [move, step, stored]
    split <;> exact ⟨rfl, rfl, rfl, fun _ => id⟩
  | measuring => exact ⟨rfl, rfl, low, fun _ => id⟩
  | dropping => exact ⟨rfl, rfl, rfl, fun _ => erase⟩
  | locking waits =>
    have free : (other.live? now tenant.lockKey).isSome = (store.live? now tenant.lockKey).isSome := by
      rw [KeyValue.live?, KeyValue.live?, lock]
    by_cases held : (store.live? now tenant.lockKey).isSome = true
    · cases waits <;> simp [move, step, startsRenewal, KeyValue.setIfAbsent?, free, held]
    · simp only [move, step, KeyValue.setIfAbsent?, free, held]
      exact ⟨rfl, rfl, rfl, fun _ => put⟩
  | awaiting result => cases result <;> exact ⟨rfl, rfl, rfl, fun _ => id⟩
  | storing => exact ⟨rfl, rfl, rfl, fun _ => put⟩
  | releasing => exact ⟨rfl, rfl, rfl, fun _ => erase⟩
  | polling =>
    simp only [move, step, stored]
    split <;> exact ⟨rfl, rfl, rfl, fun _ => id⟩
  | _ => exact ⟨rfl, rfl, rfl, fun _ => id⟩

/-- What a step does to the lock: it wins it, gives it back, or leaves it as it is. -/
theorem lock_move_cases (s : Stage) :
    let move := s.move answer tenant now store
    ((∃ waits, s = locking waits) ∧ store.live? now tenant.lockKey = none ∧ move.stage = asking ∧
        move.store.entries.get? tenant.lockKey = some ⟨lockMark, KeyValue.expiry now lockLifetime⟩) ∨
      ((∃ outcome, s = releasing outcome) ∧ move.stage.isFinished = true ∧
        move.store.entries.get? tenant.lockKey = none) ∨
      ((move.stage.isHolding = true → s.isHolding = true) ∧ (∀ outcome, s ≠ releasing outcome) ∧
        move.stage ≠ asking ∧ move.store.entries.get? tenant.lockKey = store.entries.get? tenant.lockKey) := by
  have other : tenant.accessTokenKey ≠ tenant.lockKey := Credentials.accessTokenKey_ne_lockKey _ _
  cases s with
  | reading => right; right; simp only [move, step]; split <;> simp [isHolding]
  | dropping => right; right; simp [move, step, isHolding, KeyValue.delete, Table.get?_erase_of_ne other]
  | locking waits =>
    simp only [move, step]
    split
    · rename_i won
      obtain ⟨free, rfl⟩ := by simpa [KeyValue.setIfAbsent?] using won
      exact .inl ⟨⟨_, rfl⟩, free, rfl, by simp [KeyValue.set]⟩
    · right; right; simp [isHolding]
    · right; right; simp [isHolding]
  | awaiting result => right; right; cases result <;> simp [move, step, isHolding]
  | storing => right; right; simp [move, step, isHolding, KeyValue.set, Table.get?_put_of_ne other]
  | releasing => right; left; simp [move, step, isFinished, KeyValue.delete]
  | polling => right; right; simp only [move, step]; split <;> simp [isHolding]
  | _ => right; right; simp [move, step, isHolding]

/-- A token is had from the issuer or was had before. -/
theorem issued?_move {s : Stage} {token : Issued}
    (has : (s.move answer tenant now store).stage.issued? = some token) :
    (s = asking ∧ (s.move answer tenant now store).stage = awaiting (.ok token)) ∨ s.issued? = some token := by
  cases s with
  | reading => simp only [move, step] at has; split at has <;> simp [issued?] at has
  | locking => simp only [move, step] at has; split at has <;> simp [issued?] at has
  | asking =>
    left
    obtain ⟨delay, result⟩ := answer
    cases result <;> simp_all [move, step, issued?]
  | awaiting result => right; cases result <;> simp_all [move, step, issued?]
  | polling => simp only [move, step] at has; split at has <;> simp [issued?] at has
  | _ => simp [move, step, issued?] at has

end

end Stage
end Token
end ReplyGateway
