import Mathlib
import ReplyGateway.Recency

namespace ReplyGateway.Recency

variable {K V ε σ : Type}

section Lists

variable {l front back : List K} {key : K} {limit : Nat}

theorem length_rtake (l : List K) (limit : Nat) : (l.rtake limit).length = min limit l.length := by
  rw [List.rtake, List.length_drop]
  omega

theorem rtake_append (enough : front = [] ∧ back.length ≤ limit ∨ back.length = limit) :
    (front ++ back).rtake limit = back := by
  rcases enough with ⟨rfl, short⟩ | length
  · rw [List.nil_append, List.rtake, Nat.sub_eq_zero_of_le short, List.drop_zero]
  · rw [List.rtake, List.length_append, length, Nat.add_sub_cancel, List.drop_left]

theorem exists_append_rtake (l : List K) (limit : Nat) :
    ∃ front, l = front ++ l.rtake limit ∧
      (front = [] ∧ (l.rtake limit).length < limit ∨ (l.rtake limit).length = limit) := by
  refine ⟨l.take (l.length - limit), (List.take_append_drop ..).symm, ?_⟩
  rw [List.rtake, List.length_drop]
  rcases Nat.lt_or_ge l.length limit with short | long
  · exact .inl ⟨by rw [Nat.sub_eq_zero_of_le short.le, List.take_zero], by omega⟩
  · exact .inr (by omega)

variable [DecidableEq K]

theorem dedup_concat (l : List K) (key : K) : (l ++ [key]).dedup = l.dedup.erase key ++ [key] := by
  induction l with
  | nil => simp
  | cons head rest ih =>
    rw [List.cons_append]
    by_cases later : head ∈ rest
    · rw [List.dedup_cons_of_mem (List.mem_append_left _ later), List.dedup_cons_of_mem later, ih]
    · by_cases same : head = key
      · subst same
        rw [List.dedup_cons_of_mem (by simp), ih, List.dedup_cons_of_notMem later, List.erase_cons_head,
          List.erase_of_not_mem (mt List.mem_dedup.1 later)]
      · rw [List.dedup_cons_of_notMem (by simp [later, same]), ih, List.dedup_cons_of_notMem later,
          List.erase_cons_tail (by simpa using same), List.cons_append]

/-- One of the last elements becomes the very last. -/
theorem rtake_concat_of_mem (nodup : l.Nodup) (member : key ∈ l.rtake limit) :
    (l.erase key ++ [key]).rtake limit = (l.rtake limit).erase key ++ [key] := by
  obtain ⟨front, split, enough⟩ := exists_append_rtake l limit
  have outside : key ∉ front := by
    rw [split] at nodup
    exact fun inside => (List.nodup_append.1 nodup).2.2 key inside key member rfl
  have erased : l.erase key = front ++ (l.rtake limit).erase key := by
    conv_lhs => rw [split]
    exact List.erase_append_right _ outside
  have length : ((l.rtake limit).erase key ++ [key]).length = (l.rtake limit).length := by
    have pos := List.length_pos_of_mem member
    rw [List.length_append, List.length_erase_of_mem member, List.length_singleton]
    omega
  rw [erased, List.append_assoc]
  refine rtake_append ?_
  rw [length]
  exact enough.imp_left (And.imp_right Nat.le_of_lt)

/-- A new last element takes the place of the first one, if there are enough. -/
theorem rtake_concat_of_notMem (pos : 0 < limit) (absent : key ∉ l.rtake limit) :
    (l.erase key ++ [key]).rtake limit =
      (l.rtake limit).drop ((l.rtake limit).length + 1 - limit) ++ [key] := by
  obtain ⟨front, split, enough⟩ := exists_append_rtake l limit
  have erased : l.erase key = front.erase key ++ l.rtake limit := by
    conv_lhs => rw [split]
    by_cases inside : key ∈ front
    · exact List.erase_append_left _ inside
    · rw [List.erase_append_right _ inside, List.erase_of_not_mem absent, List.erase_of_not_mem inside]
  rw [erased]
  generalize l.rtake limit = back at enough
  rcases enough with ⟨rfl, short⟩ | length
  · rw [Nat.sub_eq_zero_of_le short, List.drop_zero, List.erase_nil, List.append_assoc]
    exact rtake_append (.inl ⟨rfl, by simpa using short⟩)
  · obtain ⟨first, rest, rfl⟩ := List.exists_cons_of_length_pos (length ▸ pos)
    rw [length, Nat.add_sub_cancel_left, List.drop_one, List.tail_cons,
      show front.erase key ++ first :: rest ++ [key] = (front.erase key ++ [first]) ++ (rest ++ [key]) by simp]
    exact rtake_append (.inr (by simpa using length))

end Lists

/-- Constructs a value, and keeps a list of all that was constructed. -/
def recording (construct : K → σ → Except ε V × σ) (key : K) (state : σ × List (K × Except ε V)) :
    Except ε V × σ × List (K × Except ε V) :=
  let (result, next) := construct key state.1
  (result, next, state.2 ++ [(key, result)])

/-- The keys with success, and the values they came to. -/
def successes (history : List (K × Except ε V)) : List (K × V) :=
  history.filterMap fun (key, result) => result.toOption.map (key, ·)

/-- A cache, with all that was asked of it and all that was constructed for it. -/
structure Journal (K V ε σ : Type) where
  cache : Recency K V
  /-- The state of what constructs values, and all that it constructed. -/
  state : σ × List (K × Except ε V)
  requests : List (K × Except ε V)

/-- An empty cache before the first request. -/
def Journal.start (capacity : Nat) (state : σ) : Journal K V ε σ := ⟨.empty capacity, (state, []), []⟩

theorem successes_concat_ok (history : List (K × Except ε V)) (key : K) (value : V) :
    successes (history ++ [(key, .ok value)]) = successes history ++ [(key, value)] := by
  simp [successes, Except.toOption]

theorem successes_concat_error (history : List (K × Except ε V)) (key : K) (e : ε) :
    successes (history ++ [(key, .error e)]) = successes history := by
  simp [successes, Except.toOption]

variable [DecidableEq K]

/-- The value that a key came to last. -/
def lastValue? (history : List (K × Except ε V)) (key : K) : Option V :=
  ((successes history).reverse.find? fun e => decide (e.1 = key)).map (·.2)

/-- The keys with success, each at the place of its last one; of these the last ones, up to a limit. -/
def lastKeys (limit : Nat) (history : List (K × Except ε V)) : List K :=
  ((successes history).map (·.1)).dedup.rtake limit

theorem lastValue?_concat (history : List (K × Except ε V)) (key other : K) (value : V) :
    lastValue? (history ++ [(key, .ok value)]) other =
      if key = other then some value else lastValue? history other := by
  rw [lastValue?, successes_concat_ok, List.reverse_concat, List.find?_cons]
  by_cases same : key = other <;> simp [same, lastValue?]

/-- A success of a key that is among the last ones. -/
theorem lastKeys_concat_of_mem {limit : Nat} {history : List (K × Except ε V)} {key : K}
    (member : key ∈ lastKeys limit history) (value : V) :
    lastKeys limit (history ++ [(key, .ok value)]) = (lastKeys limit history).erase key ++ [key] := by
  rw [lastKeys, successes_concat_ok, List.map_append, List.map_singleton, dedup_concat]
  exact rtake_concat_of_mem (List.nodup_dedup _) member

/-- A success of any other key. -/
theorem lastKeys_concat_of_notMem {limit : Nat} (pos : 0 < limit) {history : List (K × Except ε V)} {key : K}
    (absent : key ∉ lastKeys limit history) (value : V) :
    lastKeys limit (history ++ [(key, .ok value)]) =
      (lastKeys limit history).drop ((lastKeys limit history).length + 1 - limit) ++ [key] := by
  rw [lastKeys, successes_concat_ok, List.map_append, List.map_singleton, dedup_concat]
  exact rtake_concat_of_notMem pos absent

theorem limit_touch (c : Recency K V) (key : K) : (c.touch key).limit = c.limit := by
  unfold touch
  split <;> rfl

namespace Journal

variable (construct : K → σ → Except ε V × σ) (j : Journal K V ε σ) (key : K)

/-- One more request. -/
def fetch : Journal K V ε σ :=
  let (result, cache, state) := j.cache.fetch (recording construct) key j.state
  ⟨cache, state, j.requests ++ [(key, result)]⟩

/-- Requests one after another. -/
def fetchAll (keys : List K) : Journal K V ε σ := keys.foldl (fetch construct) j

/-- A request finds its value, or constructs it, or fails to. -/
theorem fetch_cases :
    (∃ value, j.cache.find? key = some value ∧
        j.fetch construct key = ⟨j.cache.touch key, j.state, j.requests ++ [(key, .ok value)]⟩) ∨
      (j.cache.find? key = none ∧ ∃ value, (construct key j.state.1).1 = .ok value ∧
        j.fetch construct key = ⟨j.cache.add key value,
          ((construct key j.state.1).2, j.state.2 ++ [(key, .ok value)]), j.requests ++ [(key, .ok value)]⟩) ∨
      (j.cache.find? key = none ∧ ∃ e, (construct key j.state.1).1 = .error e ∧
        j.fetch construct key = ⟨j.cache,
          ((construct key j.state.1).2, j.state.2 ++ [(key, .error e)]), j.requests ++ [(key, .error e)]⟩) := by
  cases found : j.cache.find? key with
  | some value => exact .inl ⟨value, rfl, by simp [fetch, Recency.fetch, found]⟩
  | none =>
    right
    cases built : (construct key j.state.1).1 with
    | ok value => exact .inl ⟨rfl, value, rfl, by simp [fetch, Recency.fetch, found, recording, built]⟩
    | error e => exact .inr ⟨rfl, e, rfl, by simp [fetch, Recency.fetch, found, recording, built]⟩

/-- A cache has the last keys, and their last values. -/
structure Agrees (limit : Nat) (j : Journal K V ε σ) : Prop where
  limit_eq : j.cache.limit = limit
  queue_eq : j.cache.queue = lastKeys limit j.requests
  values : ∀ key ∈ j.cache.queue, j.cache.find? key = lastValue? j.state.2 key

variable {construct j}

/-- One request leaves the cache in agreement with what was asked of it. -/
theorem Agrees.fetch {limit : Nat} (agrees : Agrees limit j) (key : K) : Agrees limit (j.fetch construct key) := by
  obtain ⟨limit_eq, queue_eq, values⟩ := agrees
  rcases j.fetch_cases construct key with ⟨value, found, next⟩ | ⟨missing, value, _, next⟩ | ⟨missing, e, _, next⟩
  · have present : key ∈ j.cache.queue := mem_queue.2 (by rw [found]; rfl)
    rw [next]
    refine ⟨(limit_touch ..).trans limit_eq, ?_, fun other member => ?_⟩
    · rw [queue_touch present, queue_eq, lastKeys_concat_of_mem (queue_eq ▸ present)]
    · rw [queue_touch present] at member
      rw [find?_touch]
      refine values other ?_
      rcases List.mem_append.1 member with old | new
      · exact List.mem_of_mem_erase old
      · exact List.mem_singleton.1 new ▸ present
  · have absent : key ∉ j.cache.queue := fun present => by simp [mem_queue, missing] at present
    rw [next]
    refine ⟨limit_eq, ?_, fun other member => ?_⟩
    · have pos : 0 < limit := limit_eq ▸ j.cache.limit_pos
      rw [queue_add absent, queue_room, limit_eq, queue_eq, lastKeys_concat_of_notMem pos (queue_eq ▸ absent)]
    · rw [lastValue?_concat]
      split
      · rename_i same
        rw [← same, find?_add_self]
      · rename_i different
        rw [queue_add absent] at member
        have kept : other ∈ j.cache.room.queue :=
          (List.mem_append.1 member).resolve_right fun new => different (List.mem_singleton.1 new).symm
        rw [find?_add_of_ne different, find?_room kept]
        exact values other (List.mem_of_mem_drop (queue_room j.cache ▸ kept))
  · rw [next]
    refine ⟨limit_eq, ?_, fun other member => ?_⟩
    · rw [queue_eq, lastKeys, lastKeys, successes_concat_error]
    · rw [values other member, lastValue?, lastValue?, successes_concat_error]

/-- By induction on the requests: the cache has the last keys with success, with their last values. -/
theorem agrees_fetchAll (construct : K → σ → Except ε V × σ) (capacity : Nat) (state : σ) (keys : List K) :
    Agrees (max capacity 1) ((start capacity state).fetchAll construct keys) := by
  induction keys using List.reverseRecOn with
  | nil => exact ⟨rfl, by simp [fetchAll, start, lastKeys, successes, Recency.empty, List.rtake_nil], nofun⟩
  | append_singleton keys key ih =>
    rw [fetchAll, List.foldl_concat]
    exact ih.fetch key

theorem map_requests_fetchAll (construct : K → σ → Except ε V × σ) (keys : List K) (j : Journal K V ε σ) :
    (j.fetchAll construct keys).requests.map (·.1) = j.requests.map (·.1) ++ keys := by
  induction keys generalizing j with
  | nil => simp [fetchAll]
  | cons key rest ih =>
    have head : (j.fetch construct key).requests.map (·.1) = j.requests.map (·.1) ++ [key] := by simp [fetch]
    rw [fetchAll, List.foldl_cons, ← fetchAll, ih, head, List.append_assoc, List.singleton_append]

theorem Agrees.get?_eq {limit : Nat} (agrees : Agrees limit j) (key : K) :
    j.cache.entries.get? key = if key ∈ lastKeys limit j.requests then lastValue? j.state.2 key else none := by
  rw [← agrees.queue_eq]
  split
  · rename_i member
    exact agrees.values key member
  · rename_i absent
    exact Option.not_isSome_iff_eq_none.1 (mt mem_queue.2 absent)

/-- After any requests, with any successes and failures of what constructs values: the queue has the last keys
with success, each once, and the table has exactly these keys, each with the value that was constructed last. A
request for one of them gets this value, and nothing is constructed; a request for any other key constructs
once, and gets what that comes to; a request that fails changes neither the queue nor the table. -/
theorem fetchAll_history (construct : K → σ → Except ε V × σ) (capacity : Nat) (state : σ) (keys : List K) (key : K) :
    let limit := max capacity 1
    let j := (start capacity state).fetchAll construct keys
    let next := j.fetch construct key
    let used := (successes j.requests).map (·.1)
    j.requests.map (·.1) = keys ∧
      j.cache.queue.Nodup ∧ j.cache.queue = used.dedup.rtake limit ∧
      j.cache.queue.length = min limit used.dedup.length ∧
      (∀ k, j.cache.entries.get? k = if k ∈ j.cache.queue then lastValue? j.state.2 k else none) ∧
      (∀ k ∈ j.cache.queue, ∃ value, lastValue? j.state.2 k = some value) ∧
      (key ∈ j.cache.queue → ∃ value, lastValue? j.state.2 key = some value ∧
        next.requests = j.requests ++ [(key, .ok value)] ∧ next.state = j.state) ∧
      (key ∉ j.cache.queue → ∃ result after, construct key j.state.1 = (result, after) ∧
        next.requests = j.requests ++ [(key, result)] ∧ next.state = (after, j.state.2 ++ [(key, result)])) ∧
      ∀ e, next.requests = j.requests ++ [(key, .error e)] → next.cache = j.cache := by
  intro limit j next used
  have agrees : Agrees limit j := agrees_fetchAll construct capacity state keys
  have value {k : K} (member : k ∈ j.cache.queue) : ∃ value, lastValue? j.state.2 k = some value :=
    Option.isSome_iff_exists.1 (agrees.values k member ▸ mem_queue.1 member)
  refine ⟨map_requests_fetchAll construct keys _, j.cache.nodup_queue, agrees.queue_eq, ?_,
    agrees.queue_eq ▸ agrees.get?_eq, fun k => value, fun member => ?_, fun absent => ?_, fun e failed => ?_⟩
  · exact agrees.queue_eq ▸ length_rtake used.dedup limit
  · obtain ⟨v, last⟩ := value member
    rcases j.fetch_cases construct key with ⟨v', found, same⟩ | ⟨missing, _⟩ | ⟨missing, _⟩
    · rw [agrees.values key member, last, Option.some.injEq] at found
      exact ⟨v, last, by rw [show next = _ from same, found], by rw [show next = _ from same]⟩
    · simp [mem_queue, missing] at member
    · simp [mem_queue, missing] at member
  · rcases j.fetch_cases construct key with ⟨v, found, _⟩ | ⟨_, v, built, same⟩ | ⟨_, e, built, same⟩
    · exact absurd (mem_queue.2 (by rw [found]; rfl)) absent
    · exact ⟨.ok v, _, Prod.ext built rfl, by rw [show next = _ from same], by rw [show next = _ from same]⟩
    · exact ⟨.error e, _, Prod.ext built rfl, by rw [show next = _ from same], by rw [show next = _ from same]⟩
  · rcases j.fetch_cases construct key with ⟨v, _, same⟩ | ⟨_, v, _, same⟩ | ⟨_, _, _, same⟩
    · simp [show next = _ from same] at failed
    · simp [show next = _ from same] at failed
    · rw [show next = _ from same]

end Journal

end ReplyGateway.Recency
