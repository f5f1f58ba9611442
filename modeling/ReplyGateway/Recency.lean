import ReplyGateway.Table

namespace ReplyGateway

/-- A cache of few entries, in which a new entry takes the place of the one that was not used for longest: entries
under keys, and the keys in the order in which they were used. -/
structure Recency (K V : Type) where
  /-- How many entries there may be. -/
  limit : Nat
  entries : Table K V
  /-- The keys of the entries, the one not used for longest first. -/
  queue : List K
  limit_pos : 0 < limit
  size_le : entries.size ≤ limit
  inStep : entries.keys.Perm queue

namespace Recency

variable {K V : Type}

/-- An empty cache. There is always room for one entry. -/
def empty (capacity : Nat) : Recency K V := ⟨max capacity 1, .empty, [], by omega, Nat.zero_le _, .nil⟩

def size (c : Recency K V) : Nat := c.entries.size

theorem length_queue (c : Recency K V) : c.queue.length = c.size := by
  rw [size, ← Table.length_keys, c.inStep.length_eq]

theorem nodup_queue (c : Recency K V) : c.queue.Nodup := c.inStep.nodup_iff.1 c.entries.nodup_keys

variable [DecidableEq K]

def find? (c : Recency K V) (key : K) : Option V := c.entries.get? key

theorem mem_queue {c : Recency K V} {key : K} : key ∈ c.queue ↔ (c.find? key).isSome = true := by
  rw [find?, ← Table.mem_keys, c.inStep.mem_iff]

/-- Makes a key the one used last. -/
def touch (c : Recency K V) (key : K) : Recency K V :=
  if present : key ∈ c.queue then
    { c with
      queue := c.queue.erase key ++ [key]
      inStep := (c.inStep.trans (List.perm_cons_erase present)).trans (List.perm_append_singleton ..).symm }
  else c

/-- Makes room for one more entry. If there are as many as there may be, the one not used for longest goes. -/
def room (c : Recency K V) : Recency K V :=
  if c.limit ≤ c.size then
    match queue : c.queue with
    | [] => c
    | oldest :: rest =>
      { c with
        entries := c.entries.erase oldest
        queue := rest
        size_le := Nat.le_trans (List.length_filter_le ..) c.size_le
        inStep := by
          have nodup := queue ▸ c.nodup_queue
          have others : (oldest :: rest).filter (fun k => !decide (k = oldest)) = rest := by
            rw [List.filter_cons_of_neg (by simp), List.filter_eq_self]
            intro key member
            have other : key ≠ oldest := fun same => (List.nodup_cons.1 nodup).1 (same ▸ member)
            simpa using other
          rw [Table.keys_erase, ← others]
          exact (queue ▸ c.inStep).filter _ }
  else c

theorem queue_room (c : Recency K V) : c.room.queue = c.queue.drop (c.queue.length + 1 - c.limit) := by
  have le : c.size ≤ c.limit := c.size_le
  have length := c.length_queue
  have pos := c.limit_pos
  unfold room
  split
  · rw [show c.queue.length + 1 - c.limit = 1 by omega]
    split <;> simp_all
  · rw [show c.queue.length + 1 - c.limit = 0 by omega, List.drop_zero]

theorem size_room_lt (c : Recency K V) : c.room.size < c.limit := by
  have pos := c.limit_pos
  have le : c.size ≤ c.limit := c.size_le
  rw [← length_queue, queue_room, List.length_drop, length_queue]
  omega

/-- Adds an entry as the one used last. -/
def add (c : Recency K V) (key : K) (value : V) : Recency K V where
  limit := c.limit
  entries := c.room.entries.put key value
  -- a key that was there already does not stand twice
  queue := c.room.queue.erase key ++ [key]
  limit_pos := c.limit_pos
  size_le := by
    have room := c.size_room_lt
    rw [size, ← Table.length_keys] at room
    rw [← Table.length_keys]
    by_cases present : key ∈ c.room.entries.keys
    · rw [Table.keys_put_of_mem present]
      exact Nat.le_of_lt room
    · rw [Table.keys_put_of_notMem present, List.length_append]
      exact room
  inStep := by
    by_cases present : key ∈ c.room.entries.keys
    · rw [Table.keys_put_of_mem present]
      have perm := c.room.inStep
      exact (perm.trans (List.perm_cons_erase (perm.mem_iff.1 present))).trans (List.perm_append_singleton ..).symm
    · rw [Table.keys_put_of_notMem present, List.erase_of_not_mem (mt c.room.inStep.mem_iff.2 present)]
      exact c.room.inStep.append_right [key]

/-- The entry under a key, constructed if there is none. A construction that fails leaves the cache as it is. -/
def fetch {σ ε : Type} (construct : K → σ → Except ε V × σ) (c : Recency K V) (key : K) (state : σ) :
    Except ε V × Recency K V × σ :=
  match c.find? key with
  | some value => (.ok value, c.touch key, state)
  | none =>
    match construct key state with
    | (.ok value, state) => (.ok value, c.add key value, state)
    | (.error e, state) => (.error e, c, state)

theorem queue_touch {c : Recency K V} {key : K} (present : key ∈ c.queue) :
    (c.touch key).queue = c.queue.erase key ++ [key] := by
  rw [touch, dif_pos present]

theorem queue_add {c : Recency K V} {key : K} (absent : key ∉ c.queue) (value : V) :
    (c.add key value).queue = c.room.queue ++ [key] := by
  have gone : key ∉ c.room.queue := by
    rw [queue_room]
    exact mt List.mem_of_mem_drop absent
  simp only [add, List.erase_of_not_mem gone]

/-- Using an entry changes no entry. -/
theorem find?_touch (c : Recency K V) (key other : K) : (c.touch key).find? other = c.find? other := by
  unfold touch
  split <;> rfl

/-- What makes room keeps the entries whose keys it keeps. -/
theorem find?_room {c : Recency K V} {key : K} (kept : key ∈ c.room.queue) : c.room.find? key = c.find? key := by
  have found := mem_queue.1 kept
  unfold room at found ⊢
  split
  · rename_i full
    simp only [if_pos full] at found
    split
    · rfl
    · rename_i oldest rest queue
      refine Table.get?_erase_of_ne ?_
      rintro rfl
      split at found
      · simp_all
      · rename_i oldest' rest' queue'
        obtain ⟨rfl, rfl⟩ := List.cons_eq_cons.1 (queue.symm.trans queue')
        simp [find?] at found
  · rfl

/-- What was added last is found. -/
theorem find?_add_self (c : Recency K V) (key : K) (value : V) : (c.add key value).find? key = some value :=
  Table.get?_put_self ..

theorem find?_add_of_ne {c : Recency K V} {key other : K} (h : key ≠ other) (value : V) :
    (c.add key value).find? other = c.room.find? other :=
  Table.get?_put_of_ne h

/-- An attempt to construct an entry that fails changes nothing. -/
theorem fetch_of_error {σ ε : Type} {construct : K → σ → Except ε V × σ} {c : Recency K V} {key : K} {state : σ}
    {e : ε} (h : (c.fetch construct key state).1 = .error e) : (c.fetch construct key state).2.1 = c := by
  unfold fetch at h ⊢
  split at h
  · cases h
  · split at h
    · cases h
    · simp_all

end Recency
end ReplyGateway
