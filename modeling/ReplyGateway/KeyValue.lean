import ReplyGateway.Table

namespace ReplyGateway

namespace KeyValue

/-- A text in a store, and the instant from which on it is not there any more, in milliseconds. -/
structure Entry where
  value : String
  /-- The first instant at which the entry is gone; it stays for ever if there is none. -/
  expiresAt : Option Nat
  deriving DecidableEq, Repr

def Entry.isLive (e : Entry) (now : Nat) : Bool := e.expiresAt.all fun at' => decide (now < at')

/-- The end of the instants that a clock can tell. -/
def horizon : Nat := 0x8000000000000000 * 1000

/-- When a lifetime that begins now is over: never, if that is beyond all instants. -/
def expiry (now lifetime : Nat) : Option Nat := if now + lifetime < horizon then some (now + lifetime) else none

end KeyValue

/-- A store of texts under keys, in which an entry may expire. Every operation takes the present instant. -/
structure KeyValue where
  entries : Table String KeyValue.Entry
  deriving DecidableEq, Repr

namespace KeyValue

def empty : KeyValue := ⟨.empty⟩

/-- The entry under a key, unless it has expired. -/
def live? (s : KeyValue) (now : Nat) (key : String) : Option Entry :=
  (s.entries.get? key).filter fun e => e.isLive now

def get? (s : KeyValue) (now : Nat) (key : String) : Option String := (s.live? now key).map Entry.value

/-- What is left of the lifetime of an entry; `none` if there is no entry or it does not expire. -/
def lifetime? (s : KeyValue) (now : Nat) (key : String) : Option Nat :=
  (s.live? now key).bind fun e => e.expiresAt.map (· - now)

/-- Sets the entry under a key, for a lifetime or for ever. -/
def set (s : KeyValue) (now : Nat) (key value : String) (lifetime : Option Nat) : KeyValue :=
  ⟨s.entries.put key ⟨value, lifetime.bind (expiry now)⟩⟩

/-- Sets the entry under a key if there is none; otherwise `none`. -/
def setIfAbsent? (s : KeyValue) (now : Nat) (key value : String) (lifetime : Nat) : Option KeyValue :=
  if (s.live? now key).isSome then none else some (s.set now key value (some lifetime))

def delete (s : KeyValue) (key : String) : KeyValue := ⟨s.entries.erase key⟩

/-- Drops the entries that have expired. -/
def purge (s : KeyValue) (now : Nat) : KeyValue := ⟨s.entries.filter fun _ e => e.isLive now⟩

theorem lifetime?_pos {s : KeyValue} {now : Nat} {key : String} {left : Nat}
    (h : s.lifetime? now key = some left) : 0 < left := by
  simp only [lifetime?, live?, Option.bind_eq_some_iff, Option.filter_eq_some_iff, Option.map_eq_some_iff] at h
  obtain ⟨e, ⟨_, live⟩, end', atEnd, rfl⟩ := h
  simp only [Entry.isLive, atEnd, Option.all_some, decide_eq_true_eq] at live
  omega

/-- What is set is there as long as it has not expired. -/
theorem live?_set_self (s : KeyValue) (written now : Nat) (key value : String) (lifetime : Option Nat) :
    (s.set written key value lifetime).live? now key =
      (some ⟨value, lifetime.bind (expiry written)⟩ : Option Entry).filter fun e => e.isLive now := by
  simp [live?, set]

theorem live?_set_of_ne {s : KeyValue} {written now : Nat} {key other value : String} {lifetime : Option Nat}
    (h : key ≠ other) : (s.set written key value lifetime).live? now other = s.live? now other := by
  simp [live?, set, Table.get?_put_of_ne h]

theorem live?_delete_self (s : KeyValue) (now : Nat) (key : String) : (s.delete key).live? now key = none := by
  simp [live?, delete]

theorem live?_delete_of_ne {s : KeyValue} {now : Nat} {key other : String} (h : key ≠ other) :
    (s.delete key).live? now other = s.live? now other := by
  simp [live?, delete, Table.get?_erase_of_ne h]

/-- An entry that has expired does not come back. -/
theorem Entry.isLive_of_le {e : Entry} {earlier later : Nat} (h : earlier ≤ later) (live : e.isLive later) :
    e.isLive earlier := by
  unfold isLive at live ⊢
  cases end' : e.expiresAt with
  | none => rfl
  | some at' =>
    simp only [end', Option.all_some, decide_eq_true_eq] at live ⊢
    omega

/-- That expired entries are dropped shows nowhere. -/
theorem live?_purge {s : KeyValue} {purged now : Nat} (h : purged ≤ now) (key : String) :
    (s.purge purged).live? now key = s.live? now key := by
  simp only [live?, purge, Table.get?_filter]
  cases s.entries.get? key with
  | none => rfl
  | some e =>
    by_cases live : e.isLive purged
    · simp [Option.filter, live]
    · have gone : e.isLive now = false := by
        rw [Bool.eq_false_iff]
        exact fun later => live (Entry.isLive_of_le h later)
      simp [Option.filter, live, gone]

end KeyValue
end ReplyGateway
