import Mathlib
import ReplyGateway.KeyValue

namespace ReplyGateway.KeyValue

inductive Operation
  | get (key : String)
  | set (key value : String) (lifetime : Option Nat)
  | lifetime (key : String)
  | setIfAbsent (key value : String) (lifetime : Nat)
  | delete (key : String)
  | purge
  deriving DecidableEq, Repr

inductive Answer
  | value (found : Option String)
  | left (lifetime : Option Nat)
  | isSet (done : Bool)
  | nothing
  deriving DecidableEq, Repr

namespace Operation

/-- The one key that an operation is about; purging is about none. -/
def key? : Operation → Option String
  | get key | set key _ _ | lifetime key | setIfAbsent key _ _ | delete key => some key
  | purge => none

def isPurge : Operation → Bool
  | purge => true
  | _ => false

end Operation

/-- An operation that was done at an instant, and what came back. -/
structure Record where
  instant : Nat
  operation : Operation
  answer : Answer
  deriving DecidableEq, Repr

def perform (s : KeyValue) (now : Nat) : Operation → KeyValue × Answer
  | .get key => (s, .value (s.get? now key))
  | .set key value lifetime => (s.set now key value lifetime, .nothing)
  | .lifetime key => (s, .left (s.lifetime? now key))
  | .setIfAbsent key value lifetime =>
    match s.setIfAbsent? now key value lifetime with
    | some s => (s, .isSet true)
    | none => (s, .isSet false)
  | .delete key => (s.delete key, .nothing)
  | .purge => (s.purge now, .nothing)

def performAll (s : KeyValue) : List (Nat × Operation) → List Record
  | [] => []
  | (now, operation) :: rest =>
    ⟨now, operation, (s.perform now operation).2⟩ :: (s.perform now operation).1.performAll rest

/-- A text that was written under a key. -/
structure Write where
  instant : Nat
  value : String
  lifetime : Option Nat

namespace Write

/-- Whether a value is still there: for ever, if it has no lifetime or one that ends beyond all instants. -/
def isLive (w : Write) (now : Nat) : Bool :=
  match w.lifetime with
  | none => true
  | some lifetime => decide (horizon ≤ w.instant + lifetime ∨ now < w.instant + lifetime)

/-- What is left of the lifetime of what was written; `none` if it has none. -/
def left? (w : Write) (now : Nat) : Option Nat :=
  match w.lifetime with
  | none => none
  | some lifetime => if horizon ≤ w.instant + lifetime then none else some (w.instant + lifetime - now)

def entry (w : Write) : Entry := ⟨w.value, w.lifetime.bind (expiry w.instant)⟩

theorem isLive_entry (w : Write) (now : Nat) : w.entry.isLive now = w.isLive now := by
  unfold Entry.isLive entry isLive
  cases w.lifetime with
  | none => rfl
  | some lifetime =>
    rw [Option.bind_some, expiry, Bool.eq_iff_iff]
    split
    · simp only [Option.all_some, decide_eq_true_eq]
      omega
    · simp only [Option.all_none, decide_eq_true_eq, true_iff]
      omega

theorem left?_eq (w : Write) (now : Nat) : w.entry.expiresAt.map (· - now) = w.left? now := by
  unfold entry left?
  cases w.lifetime with
  | none => rfl
  | some lifetime =>
    rw [Option.bind_some, expiry]
    by_cases ends : w.instant + lifetime < horizon
    · simp [ends, Nat.not_le_of_lt ends]
    · simp [ends, Nat.le_of_not_lt ends]

end Write

/-- What a record tells about a key: something was written, or it was deleted, or nothing was done to it. -/
def Record.change? (key : String) (r : Record) : Option (Option Write) :=
  match r.operation, r.answer with
  | .set other value lifetime, _ => if other = key then some (some ⟨r.instant, value, lifetime⟩) else none
  | .setIfAbsent other value lifetime, .isSet true =>
    if other = key then some (some ⟨r.instant, value, some lifetime⟩) else none
  | .delete other, _ => if other = key then some none else none
  | _, _ => none

/-- What was last written under a key, if it was not deleted since. -/
def lastWrite? (key : String) (past : List Record) : Option Write :=
  (past.filterMap fun r => r.change? key).getLast?.join

/-- What is there under a key by what was done before. -/
def present? (past : List Record) (now : Nat) (key : String) : Option Write :=
  (lastWrite? key past).filter fun w => w.isLive now

/-- What an operation has to answer after others. A key has what was last written under it, unless it was deleted
since or the lifetime of what was written is over. -/
def expected (past : List Record) (now : Nat) : Operation → Answer
  | .get key => .value ((present? past now key).map Write.value)
  | .lifetime key => .left ((present? past now key).bind fun w => w.left? now)
  | .setIfAbsent key _ _ => .isSet (present? past now key).isNone
  | .set .. | .delete _ | .purge => .nothing

def expectedAll (past : List Record) : List (Nat × Operation) → List Record
  | [] => []
  | (now, operation) :: rest =>
    let r : Record := ⟨now, operation, expected past now operation⟩
    r :: expectedAll (past ++ [r]) rest

section

variable {s : KeyValue} {past : List Record} {calls : List (Nat × Operation)} {now later : Nat} {key : String}
  {operation : Operation} {r : Record} {p : Operation → Bool}

theorem lastWrite?_concat_of_some {w : Option Write} (change : r.change? key = some w) :
    lastWrite? key (past ++ [r]) = w := by
  simp [lastWrite?, change]

theorem lastWrite?_concat_of_none (kept : r.change? key = none) :
    lastWrite? key (past ++ [r]) = lastWrite? key past := by
  simp [lastWrite?, kept]

theorem key?_of_change? {w : Option Write} (change : r.change? key = some w) : r.operation.key? = some key := by
  unfold Record.change? at change
  split at change <;> simp_all [Operation.key?]

/-- What is in a store, now and later, is what its history tells. -/
def Agrees (s : KeyValue) (past : List Record) (now : Nat) : Prop :=
  ∀ later, now ≤ later → ∀ key, s.live? later key = (present? past later key).map Write.entry

theorem agrees_empty (now : Nat) : Agrees .empty [] now := fun _ _ _ => rfl

theorem Agrees.of_le (agrees : Agrees s past now) (le : now ≤ later) : Agrees s past later :=
  fun instant ge => agrees instant (Nat.le_trans le ge)

/-- As long as store and history agree, a key is answered as the history tells. -/
theorem Agrees.get?_eq (agrees : Agrees s past now) :
    s.get? now key = (present? past now key).map Write.value := by
  rw [get?, agrees now (Nat.le_refl _), Option.map_map]
  rfl

theorem Agrees.lifetime?_eq (agrees : Agrees s past now) :
    s.lifetime? now key = (present? past now key).bind fun w => w.left? now := by
  rw [lifetime?, agrees now (Nat.le_refl _), Option.bind_map]
  exact congrArg _ (funext fun w => w.left?_eq now)

/-- An operation that changes no key leaves history and store in agreement. -/
theorem Agrees.concat_of_kept (agrees : Agrees s past now) (kept : ∀ key, r.change? key = none) :
    Agrees s (past ++ [r]) now := by
  intro later le key
  rw [present?, lastWrite?_concat_of_none (kept key)]
  exact agrees later le key

/-- What is written is what the history tells of the key from then on. -/
theorem Agrees.concat_of_write (agrees : Agrees s past now) {value : String} {lifetime : Option Nat}
    (own : r.change? key = some (some ⟨now, value, lifetime⟩))
    (others : ∀ other, key ≠ other → r.change? other = none) :
    Agrees (s.set now key value lifetime) (past ++ [r]) now := by
  intro later le other
  by_cases same : key = other
  · subst same
    rw [live?_set_self, present?, lastWrite?_concat_of_some own, Option.filter, Option.filter]
    change (if (Write.entry ⟨now, value, lifetime⟩).isLive later = true then _ else _) = _
    rw [Write.isLive_entry]
    split <;> rfl
  · rw [live?_set_of_ne same, present?, lastWrite?_concat_of_none (others other same)]
    exact agrees later le other

/-- One operation answers as the history tells, and its record is what the history has to tell from then on. -/
theorem Agrees.perform (agrees : Agrees s past now) (operation : Operation) :
    (s.perform now operation).2 = expected past now operation ∧
      Agrees (s.perform now operation).1 (past ++ [⟨now, operation, expected past now operation⟩]) now := by
  cases operation with
  | get key => exact ⟨congrArg _ agrees.get?_eq, agrees.concat_of_kept fun _ => rfl⟩
  | lifetime key => exact ⟨congrArg _ agrees.lifetime?_eq, agrees.concat_of_kept fun _ => rfl⟩
  | set key value lifetime =>
    refine ⟨rfl, agrees.concat_of_write ?_ fun other ne => ?_⟩
    · simp [Record.change?]
    · simp [Record.change?, ne]
  | setIfAbsent key value lifetime =>
    have live := agrees now (Nat.le_refl _) key
    cases present : present? past now key with
    | none =>
      have won : s.setIfAbsent? now key value lifetime = some (s.set now key value (some lifetime)) := by
        simp [setIfAbsent?, live, present]
      have answer : expected past now (.setIfAbsent key value lifetime) = .isSet true := by simp [expected, present]
      rw [answer, KeyValue.perform, won]
      refine ⟨rfl, agrees.concat_of_write ?_ fun other ne => ?_⟩
      · simp [Record.change?]
      · simp [Record.change?, ne]
    | some w =>
      have lost : s.setIfAbsent? now key value lifetime = none := by simp [setIfAbsent?, live, present]
      have answer : expected past now (.setIfAbsent key value lifetime) = .isSet false := by simp [expected, present]
      rw [answer, KeyValue.perform, lost]
      exact ⟨rfl, agrees.concat_of_kept fun _ => rfl⟩
  | delete key =>
    refine ⟨rfl, fun later le other => ?_⟩
    by_cases same : key = other
    · subst same
      rw [KeyValue.perform, live?_delete_self, present?,
        lastWrite?_concat_of_some (w := none) (by simp [Record.change?])]
      rfl
    · rw [KeyValue.perform, live?_delete_of_ne same, present?,
        lastWrite?_concat_of_none (by simp [Record.change?, same])]
      exact agrees later le other
  | purge =>
    refine ⟨rfl, Agrees.concat_of_kept (fun later le key => ?_) fun _ => rfl⟩
    rw [KeyValue.perform, live?_purge le]
    exact agrees later le key

/-- By induction on the operations: each answers as the history tells, and leaves store and history in agreement. -/
theorem performAll_of_agrees (agrees : Agrees s past now) (begun : ∀ call ∈ calls, now ≤ call.1)
    (clock : calls.Pairwise fun a b => a.1 ≤ b.1) : s.performAll calls = expectedAll past calls := by
  induction calls generalizing s past now with
  | nil => rfl
  | cons call rest ih =>
    obtain ⟨instant, operation⟩ := call
    have order := List.pairwise_cons.1 clock
    obtain ⟨answer, next⟩ := (agrees.of_le (begun _ (List.mem_cons_self ..))).perform operation
    rw [performAll, expectedAll, answer, ih next order.1 order.2]

/-- What a store answers is told from what was done to it before. Entries that have expired may lie in it until they
are purged, but no answer shows them. -/
theorem performAll_eq_expectedAll (clock : calls.Pairwise fun a b => a.1 ≤ b.1) :
    empty.performAll calls = expectedAll [] calls :=
  performAll_of_agrees (agrees_empty 0) (fun _ _ => Nat.zero_le _) clock

/-- Operations that are taken together with all others on the same keys. -/
def IsClosed (p : Operation → Bool) : Prop :=
  ∀ a b, p a = true → a.key?.isSome = true → b.key? = a.key? → p b = true

theorem isClosed_key (key : String) : IsClosed fun a => decide (a.key? = some key) := by
  intro a b own _ same
  simpa [same] using own

theorem isClosed_not_isPurge : IsClosed fun a => !a.isPurge := by
  intro a b _ named same
  cases b with
  | purge =>
    rw [← same] at named
    cases named
  | _ => rfl

/-- What is told of a key is told by the records on that key. -/
theorem present?_filter (closed : IsClosed p) (own : p operation = true) (about : operation.key? = some key) :
    present? (past.filter fun r => p r.operation) now key = present? past now key := by
  have same : ∀ r ∈ past, (if p r.operation = true then r.change? key else none) = r.change? key := by
    intro r _
    cases change : r.change? key with
    | none => exact ite_self _
    | some w =>
      have among := closed operation r.operation own (by rw [about]; rfl) (by rw [key?_of_change? change, about])
      exact if_pos among
  rw [present?, lastWrite?, List.filterMap_filter, List.filterMap_congr same]
  rfl

/-- What is left out is no matter to the operations that are not. -/
theorem expected_filter (closed : IsClosed p) (own : p operation = true) :
    expected (past.filter fun r => p r.operation) now operation = expected past now operation := by
  cases operation with
  | get key => rw [expected, present?_filter closed own rfl, expected]
  | lifetime key => rw [expected, present?_filter closed own rfl, expected]
  | setIfAbsent key value lifetime => rw [expected, present?_filter closed own rfl, expected]
  | _ => rfl

theorem expectedAll_filter (closed : IsClosed p) (past : List Record) (calls : List (Nat × Operation)) :
    (expectedAll past calls).filter (fun r => p r.operation) =
      expectedAll (past.filter fun r => p r.operation) (calls.filter fun call => p call.2) := by
  induction calls generalizing past with
  | nil => rfl
  | cons call rest ih =>
    obtain ⟨now, operation⟩ := call
    by_cases own : p operation = true
    · simp only [expectedAll, List.filter_cons, own, if_true, ih, expected_filter closed own, List.filter_append,
        List.filter_nil]
    · simp only [expectedAll, List.filter_cons, own, Bool.false_eq_true, if_false, ih, List.filter_append,
        List.filter_nil, List.append_nil]

/-- Leaving out operations, but none on the keys of the others, changes no answer to the others. -/
theorem performAll_filter (closed : IsClosed p) (clock : calls.Pairwise fun a b => a.1 ≤ b.1) :
    (empty.performAll calls).filter (fun r => p r.operation) =
      empty.performAll (calls.filter fun call => p call.2) := by
  rw [performAll_eq_expectedAll clock, expectedAll_filter closed, List.filter_nil,
    performAll_eq_expectedAll (clock.sublist List.filter_sublist)]

theorem lifetime_pos_of_mem (s : KeyValue) {left : Nat} (member : r ∈ s.performAll calls)
    (answer : r.answer = .left (some left)) : 0 < left := by
  induction calls generalizing s with
  | nil => cases member
  | cons call rest ih =>
    obtain ⟨now, operation⟩ := call
    rcases List.mem_cons.1 member with rfl | later
    · cases operation with
      | lifetime key => exact lifetime?_pos (Answer.left.inj answer)
      | setIfAbsent key value lifetime =>
        simp only [perform] at answer
        split at answer <;> cases answer
      | _ => cases answer
    · exact ih _ later

end

/-- On a clock that never goes back, all operations on a store that was empty answer as what was done before tells:
a key has what was last written under it, if it was not deleted since and its lifetime is not over. What is left of
a lifetime is never nothing, an operation matters to its own key only, and that what has expired is dropped, at any
times or never, matters to no answer. -/
theorem answers_of_history (calls : List (Nat × Operation)) (clock : calls.Pairwise fun a b => a.1 ≤ b.1) :
    empty.performAll calls = expectedAll [] calls ∧
      (∀ r ∈ empty.performAll calls, ∀ left, r.answer = .left (some left) → 0 < left) ∧
      (∀ key, (empty.performAll calls).filter (fun r => decide (r.operation.key? = some key)) =
        empty.performAll (calls.filter fun call => decide (call.2.key? = some key))) ∧
      ∀ others : List (Nat × Operation), others.Pairwise (fun a b => a.1 ≤ b.1) →
        (others.filter fun call => !call.2.isPurge) = (calls.filter fun call => !call.2.isPurge) →
          (empty.performAll others).filter (fun r => !r.operation.isPurge) =
            (empty.performAll calls).filter fun r => !r.operation.isPurge := by
  refine ⟨performAll_eq_expectedAll clock, ?_, ?_, ?_⟩
  · exact fun r member left answer => lifetime_pos_of_mem empty member answer
  · exact fun key => performAll_filter (isClosed_key key) clock
  · intro others clock' same
    rw [performAll_filter isClosed_not_isPurge clock, performAll_filter isClosed_not_isPurge clock', same]

/-- An entry that has expired is written over, one has no time to live at all, and one loses its lifetime. -/
def overwritten : List (Nat × Operation) :=
  [(0, .setIfAbsent "lock" "first" 10), (9, .setIfAbsent "lock" "second" 10), (10, .purge),
    (10, .setIfAbsent "lock" "third" 0), (10, .get "lock"), (11, .set "token" "old" (some 5)), (12, .lifetime "token"),
    (13, .set "token" "new" none), (13, .lifetime "token"), (20, .purge), (20, .get "token"), (21, .delete "token"),
    (21, .get "token")]

theorem answers_of_history_of_overwritten : overwritten.Pairwise (fun a b => a.1 ≤ b.1) ∧
    empty.performAll overwritten = expectedAll [] overwritten ∧
      (empty.performAll overwritten).map Record.answer =
        [.isSet true, .isSet false, .nothing, .isSet true, .value none, .nothing, .left (some 4), .nothing, .left none,
          .nothing, .value (some "new"), .nothing, .value none] ∧
      (empty.performAll (overwritten.filter fun call => !call.2.isPurge)).filter (fun r => !r.operation.isPurge) =
        (empty.performAll overwritten).filter fun r => !r.operation.isPurge := by
  have clock : overwritten.Pairwise (fun a b => a.1 ≤ b.1) := by decide
  have told := answers_of_history overwritten clock
  refine ⟨clock, told.1, by decide, told.2.2.2 _ (clock.sublist List.filter_sublist) ?_⟩
  rw [List.filter_filter]
  simp

end ReplyGateway.KeyValue
