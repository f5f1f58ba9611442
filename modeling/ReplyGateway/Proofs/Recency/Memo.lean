import Mathlib
import ReplyGateway.Proofs.Recency.History

namespace ReplyGateway.Recency

variable {K V ε : Type}

theorem successes_map (f : K → Except ε V) (keys : List K) :
    (successes (keys.map fun key => (key, f key))).map (·.1) = keys.filter fun key => (f key).isOk := by
  induction keys with
  | nil => rfl
  | cons key rest ih =>
    cases gives : f key <;> simp_all [successes, Except.toOption, Except.isOk, Except.toBool]

variable [DecidableEq K]

/-- What is in a cache is what a function gives. -/
def Remembers (f : K → Except ε V) (c : Recency K V) : Prop := ∀ key value, c.find? key = some value → f key = .ok value

/-- A request for which the function constructs the value if there is none. -/
def fetchOf (f : K → Except ε V) (c : Recency K V) (key : K) : Except ε V × Recency K V × Unit :=
  c.fetch (fun key (_ : Unit) => (f key, ())) key ()

/-- A cache after requests one after another. -/
def fetchKeys (f : K → Except ε V) (c : Recency K V) (keys : List K) : Recency K V :=
  keys.foldl (fun c key => (c.fetchOf f key).2.1) c

variable {f : K → Except ε V} {c : Recency K V} {key : K}

theorem remembers_empty (f : K → Except ε V) (capacity : Nat) : Remembers f (.empty capacity) := nofun

theorem Remembers.add (remembers : Remembers f c) {value : V} (gives : f key = .ok value) :
    Remembers f (c.add key value) := by
  intro other found there
  by_cases same : key = other
  · subst same
    rw [find?_add_self] at there
    rw [gives, Option.some.inj there]
  · rw [find?_add_of_ne same] at there
    have kept : other ∈ c.room.queue := mem_queue.2 (by rw [there]; rfl)
    rw [find?_room kept] at there
    exact remembers other found there

/-- A request finds what the function gives, or constructs it, or fails as the function does. -/
theorem Remembers.fetchOf_cases (remembers : Remembers f c) (key : K) :
    (∃ value, c.find? key = some value ∧ f key = .ok value ∧ c.fetchOf f key = (f key, c.touch key, ())) ∨
      (∃ value, c.find? key = none ∧ f key = .ok value ∧ c.fetchOf f key = (f key, c.add key value, ())) ∨
      ∃ e, c.find? key = none ∧ f key = .error e ∧ c.fetchOf f key = (f key, c, ()) := by
  cases found : c.find? key with
  | some value =>
    have gives := remembers key value found
    exact .inl ⟨value, rfl, gives, by simp [fetchOf, Recency.fetch, found, gives]⟩
  | none =>
    cases gives : f key with
    | ok value => exact .inr (.inl ⟨value, rfl, rfl, by simp [fetchOf, Recency.fetch, found, gives]⟩)
    | error e => exact .inr (.inr ⟨e, rfl, rfl, by simp [fetchOf, Recency.fetch, found, gives]⟩)

/-- A request comes to what the function gives, and leaves a cache that remembers nothing else. -/
theorem Remembers.fetch (remembers : Remembers f c) (key : K) :
    (c.fetchOf f key).1 = f key ∧ Remembers f (c.fetchOf f key).2.1 := by
  rcases remembers.fetchOf_cases key with ⟨value, _, _, next⟩ | ⟨value, _, gives, next⟩ | ⟨e, _, _, next⟩
  · rw [next]
    refine ⟨rfl, fun other value there => remembers other value ?_⟩
    rwa [find?_touch] at there
  · rw [next]
    exact ⟨rfl, remembers.add gives⟩
  · rw [next]
    exact ⟨rfl, remembers⟩

/-- After any requests a cache remembers what the function gives, and nothing else. -/
theorem Remembers.fetchKeys (remembers : Remembers f c) (keys : List K) : Remembers f (c.fetchKeys f keys) := by
  induction keys generalizing c with
  | nil => exact remembers
  | cons key rest ih => exact ih (remembers.fetch key).2

theorem fetchKeys_concat (f : K → Except ε V) (c : Recency K V) (keys : List K) (key : K) :
    c.fetchKeys f (keys ++ [key]) = ((c.fetchKeys f keys).fetchOf f key).2.1 := by
  rw [Recency.fetchKeys, List.foldl_concat, ← Recency.fetchKeys]

/-- The journal of requests keeps beside the cache what they came to. -/
theorem Remembers.fetchAll (remembers : Remembers f c) (keys : List K) (history requests : List (K × Except ε V)) :
    let j := (⟨c, ((), history), requests⟩ : Journal K V ε Unit).fetchAll (fun key _ => (f key, ())) keys
    j.cache = c.fetchKeys f keys ∧ j.requests = requests ++ keys.map fun key => (key, f key) := by
  induction keys generalizing c history requests with
  | nil => exact ⟨rfl, (List.append_nil _).symm⟩
  | cons key rest ih =>
    have next := (remembers.fetch key).2
    obtain ⟨history', first⟩ : ∃ history', (⟨c, ((), history), requests⟩ : Journal K V ε Unit).fetch
        (fun key _ => (f key, ())) key = ⟨(c.fetchOf f key).2.1, ((), history'), requests ++ [(key, f key)]⟩ := by
      rcases remembers.fetchOf_cases key with ⟨value, found, gives, step⟩ | ⟨value, missing, gives, step⟩ |
          ⟨e, missing, gives, step⟩
      · exact ⟨history, by simp [Journal.fetch, Recency.fetch, found, step, gives]⟩
      · exact ⟨history ++ [(key, .ok value)], by simp [Journal.fetch, Recency.fetch, recording, missing, step, gives]⟩
      · exact ⟨history ++ [(key, .error e)], by simp [Journal.fetch, Recency.fetch, recording, missing, step, gives]⟩
    obtain ⟨cache, requests'⟩ := ih next history' (requests ++ [(key, f key)])
    simp only [Journal.fetchAll, List.foldl_cons, first] at cache requests' ⊢
    exact ⟨cache, by rw [requests', List.map_cons, List.append_assoc, List.singleton_append]⟩

/-- After any requests there are as many entries as there are keys with success, up to the limit. -/
theorem size_fetchKeys (f : K → Except ε V) (capacity : Nat) (keys : List K) :
    ((empty capacity).fetchKeys f keys).size =
      min (max capacity 1) (keys.filter fun key => (f key).isOk).dedup.length := by
  -- the journal of the same requests tells which keys the queue has
  obtain ⟨cache, requests⟩ := (remembers_empty f capacity).fetchAll keys [] []
  have agrees := Journal.agrees_fetchAll (fun key (_ : Unit) => (f key, ())) capacity () keys
  rw [← length_queue, ← cache]
  change ((Journal.start capacity ()).fetchAll _ keys).cache.queue.length = _
  have came : ((Journal.start capacity ()).fetchAll (fun key (_ : Unit) => (f key, ())) keys).requests =
      keys.map fun key => (key, f key) := requests
  rw [agrees.queue_eq, lastKeys, length_rtake, came, successes_map]

end ReplyGateway.Recency
