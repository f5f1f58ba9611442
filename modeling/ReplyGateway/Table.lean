namespace ReplyGateway

/-- A table that keeps one entry for each key, in the order in which the keys came. -/
structure Table (K V : Type) where
  entries : List (K × V)
  distinct : entries.Pairwise fun a b => a.1 ≠ b.1
  deriving DecidableEq, Repr

namespace Table

variable {K V : Type}

theorem distinct_nil : ([] : List (K × V)).Pairwise fun a b => a.1 ≠ b.1 := .nil

def empty : Table K V := ⟨[], distinct_nil⟩

def size (t : Table K V) : Nat := t.entries.length

def keys (t : Table K V) : List K := t.entries.map (·.1)

theorem length_keys (t : Table K V) : t.keys.length = t.size := List.length_map ..

theorem nodup_keys (t : Table K V) : t.keys.Nodup := List.pairwise_map.2 t.distinct

def filter (t : Table K V) (p : K → V → Bool) : Table K V where
  entries := t.entries.filter fun e => p e.1 e.2
  distinct := t.distinct.sublist List.filter_sublist

variable [DecidableEq K]

def get? (t : Table K V) (key : K) : Option V := (t.entries.find? fun e => decide (e.1 = key)).map (·.2)

/-- Replaces the entry under a key in a list, or adds one at the end. -/
def putEntry (key : K) (value : V) : List (K × V) → List (K × V)
  | [] => [(key, value)]
  | e :: rest => if e.1 = key then (key, value) :: rest else e :: putEntry key value rest

theorem mem_putEntry {key : K} {value : V} {l : List (K × V)} {e : K × V} (h : e ∈ putEntry key value l) :
    e = (key, value) ∨ e ∈ l := by
  induction l with
  | nil => exact .inl (List.mem_singleton.1 h)
  | cons d rest ih =>
    unfold putEntry at h
    split at h
    · rcases List.mem_cons.1 h with h | h
      · exact .inl h
      · exact .inr (.tail _ h)
    · rcases List.mem_cons.1 h with h | h
      · exact .inr (h ▸ .head _)
      · exact (ih h).imp id (.tail _)

theorem distinct_putEntry (key : K) (value : V) {l : List (K × V)} (h : l.Pairwise fun a b => a.1 ≠ b.1) :
    (putEntry key value l).Pairwise fun a b => a.1 ≠ b.1 := by
  induction l with
  | nil => simp [putEntry]
  | cons d rest ih =>
    rw [List.pairwise_cons] at h
    unfold putEntry
    split
    · rename_i same
      subst same
      exact .cons h.1 h.2
    · rename_i other
      refine .cons (fun e mem => ?_) (ih h.2)
      rcases mem_putEntry mem with rfl | mem
      · exact other
      · exact h.1 e mem

/-- Replaces the entry under a key, or adds one at the end. -/
def put (t : Table K V) (key : K) (value : V) : Table K V where
  entries := putEntry key value t.entries
  distinct := distinct_putEntry key value t.distinct

def erase (t : Table K V) (key : K) : Table K V := t.filter fun k _ => !decide (k = key)

@[simp] theorem get?_empty (key : K) : (empty : Table K V).get? key = none := rfl

/-- What was put under a key is found there. -/
@[simp] theorem get?_put_self (t : Table K V) (key : K) (value : V) : (t.put key value).get? key = some value := by
  obtain ⟨entries, _⟩ := t
  simp only [get?, put]
  induction entries with
  | nil => simp [putEntry]
  | cons e rest ih =>
    by_cases h : e.1 = key
    · simp [putEntry, h]
    · simpa [putEntry, h] using ih (by simp_all)

/-- What is put under one key does not touch the others. -/
theorem get?_put_of_ne {t : Table K V} {key other : K} {value : V} (h : key ≠ other) :
    (t.put key value).get? other = t.get? other := by
  obtain ⟨entries, _⟩ := t
  simp only [get?, put]
  induction entries with
  | nil => simp [putEntry, h]
  | cons e rest ih =>
    by_cases same : e.1 = key
    · simp [putEntry, same, h]
    · by_cases found : e.1 = other
      · simp [putEntry, found, Ne.symm h]
      · simpa [putEntry, same, found] using ih (by simp_all)

theorem mem_keys {t : Table K V} {key : K} : key ∈ t.keys ↔ (t.get? key).isSome = true := by
  simp [keys, get?, List.find?_isSome]

theorem keys_put_of_mem {t : Table K V} {key : K} (present : key ∈ t.keys) (value : V) :
    (t.put key value).keys = t.keys := by
  obtain ⟨entries, _⟩ := t
  simp only [keys, put] at present ⊢
  induction entries with
  | nil => cases present
  | cons e rest ih =>
    by_cases same : e.1 = key
    · simp [putEntry, same]
    · have later : key ∈ rest.map (·.1) := (List.mem_cons.1 present).resolve_left (Ne.symm same)
      simpa [putEntry, same] using ih (by simp_all) later

theorem keys_put_of_notMem {t : Table K V} {key : K} (absent : key ∉ t.keys) (value : V) :
    (t.put key value).keys = t.keys ++ [key] := by
  obtain ⟨entries, _⟩ := t
  simp only [keys, put] at absent ⊢
  induction entries with
  | nil => rfl
  | cons e rest ih =>
    rw [List.map_cons, List.mem_cons, not_or] at absent
    simpa [putEntry, Ne.symm absent.1] using ih (by simp_all) absent.2

theorem keys_erase (t : Table K V) (key : K) : (t.erase key).keys = t.keys.filter fun k => !decide (k = key) := by
  simp only [keys, erase, filter, List.filter_map]
  rfl

/-- Keeping some of the entries changes nothing else. -/
theorem get?_filter (t : Table K V) (p : K → V → Bool) (key : K) :
    (t.filter p).get? key = (t.get? key).filter (p key) := by
  obtain ⟨entries, distinct⟩ := t
  simp only [get?, filter]
  induction entries with
  | nil => rfl
  | cons e rest ih =>
    rw [List.pairwise_cons] at distinct
    by_cases found : e.1 = key
    · subst found
      by_cases kept : p e.1 e.2
      · simp [kept, Option.filter]
      · have absent : rest.find? (fun a => p a.1 a.2 && decide (a.1 = e.1)) = none := by
          rw [List.find?_eq_none]
          intro a mem
          simpa using fun _ => Ne.symm (distinct.1 a mem)
        simp [kept, List.find?_filter, absent, Option.filter]
    · by_cases kept : p e.1 e.2
      · simpa [kept, found] using ih distinct.2
      · simpa [kept, found] using ih distinct.2

@[simp] theorem get?_erase_self (t : Table K V) (key : K) : (t.erase key).get? key = none := by
  rw [erase, get?_filter]
  cases t.get? key <;> simp

theorem get?_erase_of_ne {t : Table K V} {key other : K} (h : key ≠ other) :
    (t.erase key).get? other = t.get? other := by
  rw [erase, get?_filter]
  cases t.get? other <;> simp [Ne.symm h]

end Table
end ReplyGateway
