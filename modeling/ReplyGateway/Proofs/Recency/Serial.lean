import Mathlib
import ReplyGateway.Lists
import ReplyGateway.Proofs.Recency.History
import ReplyGateway.Proofs.Recency.Traffic

namespace ReplyGateway.Recency

variable {K V ε σ : Type}

namespace Event

def acquired? : Event K V ε → Option Nat
  | acquires call => some call
  | _ => none

/-- What a construction that has ended was for, and what it came to. -/
def made? : Event K V ε → Option (K × Except ε V)
  | constructed _ key result => some (key, result)
  | _ => none

/-- What a call that ends was for, and what it comes to. -/
def answer? : Event K V ε → Option (K × Except ε V)
  | finds _ key value => some (key, .ok value)
  | constructed _ key result => some (key, result)
  | _ => none

end Event

def Progress.result? : Progress V ε → Option (Except ε V)
  | ended result => some result
  | _ => none

namespace Traffic

/-- What a call was for and what it came to, if it has ended. -/
def answer? (t : Traffic K V ε) (call : Nat) : Option (K × Except ε V) :=
  t.callers[call]?.bind fun c => c.progress.result?.map (c.key, ·)

/-- The constructions that have ended. -/
def made (events : List (Event K V ε)) : List (K × Except ε V) := events.filterMap Event.made?

/-- The calls in the order in which they got the cache. -/
def acquisitions (events : List (Event K V ε)) : List Nat := events.filterMap Event.acquired?

/-- What the calls that have ended came to, in the order in which they got the cache. -/
def served (t : Traffic K V ε) (events : List (Event K V ε)) : List (K × Except ε V) :=
  (acquisitions events).filterMap t.answer?

theorem acquisitions_concat (events : List (Event K V ε)) (e : Event K V ε) :
    acquisitions (events ++ [e]) = acquisitions events ++ e.acquired?.toList := filterMap_concat ..

theorem made_concat (events : List (Event K V ε)) (e : Event K V ε) :
    made (events ++ [e]) = made events ++ e.made?.toList := filterMap_concat ..

end Traffic

/-- Constructing for keys one after another comes to these results. -/
def Constructs (construct : K → σ → Except ε V × σ) (state after : σ) : List (K × Except ε V) → Prop
  | [] => after = state
  | (key, result) :: rest => (construct key state).1 = result ∧ Constructs construct (construct key state).2 after rest

theorem constructs_concat {construct : K → σ → Except ε V × σ} {state after : σ} {history : List (K × Except ε V)}
    {key : K} {result : Except ε V} :
    Constructs construct state after (history ++ [(key, result)]) ↔
      ∃ between, Constructs construct state between history ∧ construct key between = (result, after) := by
  induction history generalizing state with
  | nil => simp [Constructs, Prod.ext_iff, eq_comm]
  | cons first rest ih => simp [Constructs, ih, and_assoc]

/-- Constructing for whatever key comes to the results that are given beforehand, one after another. -/
def scripted (otherwise : Except ε V) (_ : K) : List (Except ε V) → Except ε V × List (Except ε V)
  | [] => (otherwise, [])
  | result :: rest => (result, rest)

/-- Something constructs to whatever results. -/
theorem constructs_scripted (otherwise : Except ε V) (history : List (K × Except ε V)) :
    Constructs (scripted otherwise) (history.map (·.2)) [] history := by
  induction history with
  | nil => rfl
  | cons _ _ ih => exact ⟨rfl, ih⟩

variable [DecidableEq K]

theorem Journal.fetchAll_append (construct : K → σ → Except ε V × σ) (j : Journal K V ε σ) (first second : List K) :
    j.fetchAll construct (first ++ second) = (j.fetchAll construct first).fetchAll construct second :=
  List.foldl_append

namespace Traffic

variable {s t u : Traffic K V ε} {e : Event K V ε} {events : List (Event K V ε)} {call : Nat} {key : K}
  {a : K × Except ε V} {cache : Recency K V}

/-- An event tells what its own call comes to, and leaves what other calls came to. -/
theorem Next.answer?_eq (next : s.Next e u) (call : Nat) :
    u.answer? call = if call = e.call then e.answer? else s.answer? call := by
  split
  · rename_i own
    subst own
    have set {b c : Caller K V ε} {call : Nat} {cache : Recency K V} {holder : Option Nat}
        (found : s.callers[call]? = some b) :
        (⟨cache, holder, s.callers.set call c⟩ : Traffic K V ε).answer? call = c.progress.result?.map (c.key, ·) := by
      simp [answer?, (List.getElem?_eq_some_iff.mp found).1]
    cases next with
    | begin => simp [answer?, Event.call, Event.answer?, Progress.result?]
    | acquire found | find found | miss found | construct found | cancel found => exact set found
  · rename_i foreign
    rw [answer?, answer?, next.callers_of_ne foreign]

/-- A call that has ended does nothing more. -/
theorem Next.unanswered (next : s.Next e u) : s.answer? e.call = none := by
  cases next with
  | begin => simp [answer?, Event.call]
  | acquire found | find found | miss found | construct found => simp [answer?, Event.call, found, Progress.result?]
  | @cancel _ c found working =>
    cases progress : c.progress <;> simp_all [answer?, Event.call, Progress.result?, Progress.isOver]

theorem Next.answer?_kept (next : s.Next e u) (ended : s.answer? call = some a) : u.answer? call = some a := by
  rw [next.answer?_eq, if_neg, ended]
  rintro rfl
  rw [next.unanswered] at ended
  cases ended

/-- What a call has come to stays as it is. -/
theorem Run.answer?_kept (run : s.Run events t) (ended : s.answer? call = some a) : t.answer? call = some a := by
  induction run with
  | start => exact ended
  | next _ next ih => exact next.answer?_kept ih

/-- A call that ends has the cache. -/
theorem Next.holder_of_answer (orderly : s.Orderly) (next : s.Next e u) (ends : e.answer? = some a) :
    s.holder = some e.call := by
  cases next with
  | find found => exact (orderly.holder_iff _).mpr ⟨_, found, rfl⟩
  | construct found => exact orderly.holder_of_constructing found
  | _ => cases ends

/-- Only what a call ends with changes the cache. -/
theorem Next.cache_eq (next : s.Next e u) (goesOn : e.answer? = none) : u.cache = s.cache := by
  cases next with
  | find => cases goesOn
  | construct => cases goesOn
  | _ => rfl

/-- Who has the cache has just got it, or had it before. -/
theorem Next.holder_cases (next : s.Next e u) (holds : u.holder = some call) :
    e = .acquires call ∨ e.acquired? = none ∧ s.holder = some call := by
  cases next with
  | begin => exact .inr ⟨rfl, holds⟩
  | acquire => exact .inl (congrArg _ (Option.some.inj holds))
  | find => cases holds
  | miss => exact .inr ⟨rfl, holds⟩
  | construct => cases holds
  | cancel => exact .inr ⟨rfl, (Option.filter_eq_some_iff.mp holds).1⟩

/-- A call keeps its key, and when it waits no more it never waits again. -/
theorem Next.caller_keeps (next : s.Next e u) {c : Caller K V ε} (found : s.callers[call]? = some c) :
    ∃ d, u.callers[call]? = some d ∧ d.key = c.key ∧ (c.progress ≠ .waiting → d.progress ≠ .waiting) := by
  by_cases own : call = e.call
  · subst own
    have bound := (List.getElem?_eq_some_iff.mp found).1
    cases next with
    | begin => simp [Event.call] at bound
    | acquire here | find here | miss here | construct here | cancel here =>
      obtain rfl := Option.some.inj (here.symm.trans found)
      exact ⟨_, List.getElem?_set_self bound, rfl, by simp⟩
  · exact ⟨c, (next.callers_of_ne own).trans found, rfl, id⟩

/-- Every call got the cache once at most; the last one to get it is the one that has it, and all that have ended are
among them. -/
structure InOrder (events : List (Event K V ε)) (t : Traffic K V ε) : Prop where
  begun : ∀ call ∈ acquisitions events, ∃ c, t.callers[call]? = some c ∧ c.progress ≠ .waiting
  nodup : (acquisitions events).Nodup
  last : ∀ call, t.holder = some call → (acquisitions events).getLast? = some call
  ended : ∀ call a, t.answer? call = some a → call ∈ acquisitions events

/-- One event keeps the order in which calls got the cache. -/
theorem InOrder.next (inOrder : InOrder events s) (orderly : s.Orderly) (next : s.Next e u) :
    InOrder (events ++ [e]) u where
  begun call member := by
    rw [acquisitions_concat] at member
    rcases List.mem_append.mp member with old | new
    · obtain ⟨c, found, begun⟩ := inOrder.begun call old
      obtain ⟨d, found', _, still⟩ := next.caller_keeps found
      exact ⟨d, found', still begun⟩
    · cases next with
      | acquire found =>
        obtain rfl := List.mem_singleton.mp new
        exact ⟨_, List.getElem?_set_self (List.getElem?_eq_some_iff.mp found).1, by simp⟩
      | _ => cases new
  nodup := by
    rw [acquisitions_concat]
    cases next with
    | @acquire call key found =>
      refine List.nodup_append.mpr ⟨inOrder.nodup, List.nodup_singleton call, ?_⟩
      rintro other member _ new rfl
      obtain rfl := List.mem_singleton.mp new
      obtain ⟨c, found', begun⟩ := inOrder.begun other member
      obtain rfl := Option.some.inj (found.symm.trans found')
      exact begun rfl
    | _ => exact (List.append_nil (acquisitions events)).symm ▸ inOrder.nodup
  last call holds := by
    rw [acquisitions_concat]
    rcases next.holder_cases holds with rfl | ⟨none, before⟩
    · exact List.getLast?_concat
    · rw [none, Option.toList_none, List.append_nil]
      exact inOrder.last call before
  ended call a ended := by
    rw [acquisitions_concat]
    rw [next.answer?_eq] at ended
    refine List.mem_append_left _ ?_
    split at ended
    · rename_i own
      exact own ▸ List.mem_of_getLast? (inOrder.last _ (next.holder_of_answer orderly ended))
    · exact inOrder.ended call a ended

/-- Every call gets the cache once at most, and all that have ended are among those that got it. -/
theorem Run.inOrder (run : (idle cache).Run events t) : InOrder events t := by
  induction run with
  | start => exact ⟨by simp [acquisitions], List.nodup_nil, by simp [idle], by simp [idle, answer?]⟩
  | next run next ih => exact ih.next (run.orderly (orderly_idle _)) next

/-- One event adds what its call ends with, if it ends, to what calls came to before. -/
theorem Next.served_concat (inOrder : InOrder events s) (orderly : s.Orderly) (next : s.Next e u) :
    u.served (events ++ [e]) = s.served events ++ e.answer?.toList := by
  rw [served, acquisitions_concat, List.filterMap_append]
  cases ends : e.answer? with
  | none =>
    have same : u.answer? = s.answer? := by
      funext call
      rw [next.answer?_eq, ends]
      split
      · rename_i own
        rw [own, next.unanswered]
      · rfl
    have nothing : e.acquired?.toList.filterMap s.answer? = [] := by
      cases e with
      | acquires call => simp [Event.acquired?, show s.answer? call = none from next.unanswered]
      | _ => rfl
    rw [same, nothing]
    rfl
  | some a =>
    have others : e.acquired?.toList = [] := by
      cases e with
      | acquires => cases ends
      | _ => rfl
    -- who ends was the last one to get the cache, so that its answer comes behind all others
    obtain ⟨before, split⟩ := List.getLast?_eq_some_iff.mp (inOrder.last _ (next.holder_of_answer orderly ends))
    have earlier : before.filterMap u.answer? = before.filterMap s.answer? := by
      refine List.filterMap_congr fun call member => ?_
      rw [next.answer?_eq, if_neg]
      rintro rfl
      exact (List.nodup_append.mp (split ▸ inOrder.nodup)).2.2 _ member _ (List.mem_singleton_self _) rfl
    rw [others, served, split, List.filterMap_append, List.filterMap_append, earlier]
    simp [next.answer?_eq, next.unanswered, ends]

/-- Taken in the order in which they got the cache, the calls that have ended are requests one after another, with the
constructions that have ended. -/
theorem Run.replays (run : (idle cache).Run events t) {construct : K → σ → Except ε V × σ} {state after : σ}
    (constructs : Constructs construct state after (made events)) :
    (⟨cache, (state, []), []⟩ : Journal K V ε σ).fetchAll construct ((t.served events).map (·.1)) =
      ⟨t.cache, (after, made events), t.served events⟩ := by
  induction run generalizing after with
  | start =>
    obtain rfl : after = state := constructs
    rfl
  | @next events t u e run next ih =>
    have orderly := run.orderly (orderly_idle _)
    rw [next.served_concat run.inOrder orderly, made_concat, List.map_append, Journal.fetchAll_append]
    rw [made_concat] at constructs
    cases next with
    | find found there =>
      simp only [Event.made?, Option.toList_none, List.append_nil] at constructs ⊢
      rw [ih constructs]
      simp [Event.answer?, Journal.fetchAll, Journal.fetch, Recency.fetch, there]
    | @construct _ key result found =>
      obtain ⟨between, before, last⟩ := constructs_concat.mp constructs
      have missing := orderly.absent _ key found
      rw [ih before]
      cases result <;>
        simp [Event.answer?, Event.made?, Journal.fetchAll, Journal.fetch, Recency.fetch, missing, recording, last,
          keep]
    | _ =>
      simp only [Event.made?, Event.answer?, Option.toList_none, List.append_nil, List.map_nil] at constructs ⊢
      exact ih constructs

/-- An error is what a construction of the very call came to. -/
theorem Run.constructed_of_error {reason : ε} (run : (idle cache).Run events t)
    (failed : t.answer? call = some (key, .error reason)) : .constructed call key (.error reason) ∈ events := by
  induction run with
  | start => simp [idle, answer?] at failed
  | @next events t u e run next ih =>
    rw [next.answer?_eq] at failed
    split at failed
    · rename_i own
      refine List.mem_append_right _ (List.mem_singleton.mpr ?_)
      cases e <;> simp_all [Event.answer?, Event.call]
    · exact List.mem_append_left _ (ih failed)

/-- Calls for one key that was not there: those that fail come first, each with a construction of its own, and of those
that succeed the first one constructs the value that all get. -/
structure OneKey (key : K) (t : Traffic K V ε) (all made failures successes : List (K × Except ε V)) : Prop where
  all_eq : all = failures ++ successes
  made_eq : made = failures ++ successes.take 1
  failed : ∀ a ∈ failures, ∃ e, a = (key, .error e)
  succeeded : ∀ a ∈ successes, ∃ value, t.cache.find? key = some value ∧ a = (key, .ok value)
  absent : successes = [] → t.cache.find? key = none

/-- A call finds the value. -/
theorem OneKey.find {all made failures successes : List (K × Except ε V)} {value : V}
    (one : OneKey key t all made failures successes) (there : t.cache.find? key = some value)
    (same : u.cache.find? key = t.cache.find? key) :
    OneKey key u (all ++ [(key, .ok value)]) made failures (successes ++ [(key, .ok value)]) where
  all_eq := by rw [one.all_eq, List.append_assoc]
  made_eq := by
    have some : successes ≠ [] := fun none => by simp [one.absent none] at there
    rw [one.made_eq, List.take_append_of_le_length (List.length_pos_iff.mpr some)]
  failed := one.failed
  succeeded a member := by
    rw [same]
    rcases List.mem_append.mp member with old | new
    · exact one.succeeded a old
    · exact ⟨value, there, List.mem_singleton.mp new⟩
  absent none := by simp at none

/-- A construction has ended. -/
theorem OneKey.construct {all made failures successes : List (K × Except ε V)}
    (one : OneKey key t all made failures successes) (missing : t.cache.find? key = none) (result : Except ε V)
    (kept : u.cache = t.cache.keep key result) :
    ∃ failures successes, OneKey key u (all ++ [(key, result)]) (made ++ [(key, result)]) failures successes := by
  obtain rfl : successes = [] := by
    refine List.eq_nil_iff_forall_not_mem.mpr fun a member => ?_
    obtain ⟨value, there, _⟩ := one.succeeded a member
    rw [missing] at there
    cases there
  have all_eq : all = failures := by simpa using one.all_eq
  have made_eq : made = failures := by simpa using one.made_eq
  cases result with
  | ok value =>
    refine ⟨failures, [(key, .ok value)], by rw [all_eq], by rw [made_eq]; rfl, one.failed, ?_, by simp⟩
    simp only [List.mem_singleton, forall_eq]
    exact ⟨value, by rw [kept, keep, find?_add_self], rfl⟩
  | error e =>
    refine ⟨failures ++ [(key, .error e)], [], by simp [all_eq], by simp [made_eq], fun a member => ?_, by simp, ?_⟩
    · rcases List.mem_append.mp member with old | new
      · exact one.failed a old
      · exact ⟨e, List.mem_singleton.mp new⟩
    · exact fun _ => by rw [kept]; exact missing

/-- Of calls for one key that is not there, those before the first success fail with constructions of their own, and
all later ones get the value of that success. -/
theorem Run.oneKey (run : (idle cache).Run events t) (missing : cache.find? key = none)
    (alone : ∀ (call : Nat) (c : Caller K V ε), t.callers[call]? = some c → c.key = key) :
    ∃ failures successes, OneKey key t (t.served events) (made events) failures successes := by
  induction run with
  | start => exact ⟨[], [], rfl, rfl, by simp, by simp, fun _ => missing⟩
  | @next events t u e run next ih =>
    have orderly := run.orderly (orderly_idle _)
    have alone' (call : Nat) (c : Caller K V ε) (found : t.callers[call]? = some c) : c.key = key := by
      obtain ⟨d, found', same, _⟩ := next.caller_keeps found
      rw [← same, alone call d found']
    obtain ⟨failures, successes, one⟩ := ih alone'
    rw [next.served_concat run.inOrder orderly, made_concat]
    cases next with
    | find found there =>
      obtain rfl := alone' _ _ found
      simp only [Event.made?, Option.toList_none, List.append_nil]
      exact ⟨failures, _, one.find there (find?_touch ..)⟩
    | construct found =>
      obtain rfl := alone' _ _ found
      exact one.construct (orderly.absent _ _ found) _ rfl
    | _ =>
      simp only [Event.made?, Event.answer?, Option.toList_none, List.append_nil]
      exact ⟨failures, successes, one.all_eq, one.made_eq, one.failed, one.succeeded, one.absent⟩

/-- An event of a call that is cancelled in the end changes nothing in the cache. -/
theorem Next.cache_eq_of_cancelled {c : Caller K V ε} (next : s.Next e u) (later : u.Run events t)
    (found : t.callers[e.call]? = some c) (cancelled : c.progress = .cancelled) : u.cache = s.cache := by
  refine next.cache_eq (Option.eq_none_iff_forall_ne_some.mpr fun a ends => ?_)
  have ended : u.answer? e.call = some a := by rw [next.answer?_eq, if_pos rfl, ends]
  have kept := later.answer?_kept ended
  simp [answer?, found, cancelled, Progress.result?] at kept

/-- What calls that share a cache come to, after any of their events. -/
structure Serves (cache : Recency K V) (events : List (Event K V ε)) (t : Traffic K V ε) : Prop where
  /-- One construction at most is at work. -/
  alone : ∀ (call other : Nat) (key key' : K), t.callers[call]? = some ⟨key, .constructing⟩ →
    t.callers[other]? = some ⟨key', .constructing⟩ → call = other
  /-- What is being constructed is not there. -/
  missing : ∀ (call : Nat) (key : K), t.callers[call]? = some ⟨key, .constructing⟩ → t.cache.find? key = none
  inOrder : InOrder events t
  /-- With what constructs the same, requests one after another come to the same. -/
  serial : ∀ {σ : Type} (construct : K → σ → Except ε V × σ) (state after : σ),
    Constructs construct state after (made events) →
      (⟨cache, (state, []), []⟩ : Journal K V ε σ).fetchAll construct ((t.served events).map (·.1)) =
        ⟨t.cache, (after, made events), t.served events⟩
  /-- A call that is cancelled changes nothing, whatever it did before. -/
  cancelled : ∀ {before after : List (Event K V ε)} {a b : Traffic K V ε} {e : Event K V ε} {key : K},
    (idle cache).Run before a → a.Next e b → b.Run after t → t.callers[e.call]? = some ⟨key, .cancelled⟩ →
      b.cache = a.cache
  /-- An error is what a construction of the very call came to. -/
  own : ∀ (call : Nat) (key : K) (reason : ε), t.answer? call = some (key, .error reason) →
    .constructed call key (.error reason) ∈ events
  /-- Calls for nothing but one key that was not there. -/
  oneKey : ∀ key, cache.find? key = none →
    (∀ (call : Nat) (c : Caller K V ε), t.callers[call]? = some c → c.key = key) →
      ∃ failures successes, OneKey key t (t.served events) (made events) failures successes

/-- Calls that share a cache, in whatever order they get it and whichever of them fail or are cancelled, construct one
entry at a time, and only what is not there; they come to what they would come to one after another in the order in
which they got the cache. -/
theorem Run.serves (run : (idle cache).Run events t) : Serves cache events t where
  alone call other key key' first second := by
    have orderly := run.orderly (orderly_idle _)
    have holder := orderly.holder_of_constructing first
    exact Option.some.inj (holder.symm.trans (orderly.holder_of_constructing second))
  missing := (run.orderly (orderly_idle _)).absent
  inOrder := run.inOrder
  serial _ _ _ := run.replays
  cancelled _ next later found := next.cache_eq_of_cancelled later found rfl
  own _ _ _ := run.constructed_of_error
  oneKey _ := run.oneKey

/-- Five calls for one key: one is cancelled while it constructs, one while it waits, one fails, one constructs the
value, and the last finds it. -/
def five : List (Event Nat String String) :=
  [.begins 0 1, .begins 1 1, .begins 2 1, .begins 3 1, .acquires 0, .constructs 0 1, .cancelled 0, .cancelled 1,
    .acquires 2, .constructs 2 1, .constructed 2 1 (.error "late"), .acquires 3, .constructs 3 1,
    .constructed 3 1 (.ok "made"), .begins 4 1, .acquires 4, .finds 4 1 "made"]

/-- The second call to get the cache fails, the third constructs the value, and the last one finds it. -/
theorem Run.serves_five :
    ∃ t : Traffic Nat String String, (idle (.empty 1)).Run five t ∧ Serves (.empty 1) five t ∧
      t.callers.length = 5 ∧ t.cache.queue = [1] ∧
      made five = [(1, .error "late"), (1, .ok "made")] ∧
      t.served five = [(1, .error "late"), (1, .ok "made"), (1, .ok "made")] ∧
      (⟨.empty 1, ([.error "late", .ok "made"], []), []⟩ : Journal ..).fetchAll (scripted (.error "")) [1, 1, 1] =
        ⟨t.cache, ([], made five), t.served five⟩ := by
  have cancelled : (idle (.empty 1)).Run (five.take 8)
      ⟨.empty 1, none, [⟨1, .cancelled⟩, ⟨1, .cancelled⟩, ⟨1, .waiting⟩, ⟨1, .waiting⟩]⟩ :=
    .cons .begin <| .cons .begin <| .cons .begin <| .cons .begin <| .cons (.acquire rfl rfl) <| .cons (.miss rfl rfl) <|
      .cons (.cancel rfl rfl) <| .cons (.cancel rfl rfl) .start
  have failed : (idle (.empty 1)).Run (five.take 8 ++ (five.drop 8).take 3)
      ⟨.empty 1, none, [⟨1, .cancelled⟩, ⟨1, .cancelled⟩, ⟨1, .ended (.error "late")⟩, ⟨1, .waiting⟩]⟩ :=
    cancelled.append <| .cons (.acquire rfl rfl) <| .cons (.miss rfl rfl) <| .cons (.construct rfl) .start
  have constructed : (idle (.empty 1)).Run (five.take 11 ++ (five.drop 11).take 3)
      ⟨.add (.empty 1) 1 "made", none,
        [⟨1, .cancelled⟩, ⟨1, .cancelled⟩, ⟨1, .ended (.error "late")⟩, ⟨1, .ended (.ok "made")⟩]⟩ :=
    failed.append <| .cons (.acquire rfl rfl) <| .cons (.miss rfl rfl) <| .cons (.construct rfl) .start
  have found : (idle (.empty 1)).Run (five.take 14 ++ five.drop 14) _ :=
    constructed.append <| .cons .begin <| .cons (.acquire rfl rfl) <| .cons (.find rfl rfl) .start
  have serial := found.serves.serial (scripted (.error "")) _ _ (constructs_scripted _ _)
  exact ⟨_, found, found.serves, rfl, rfl, rfl, rfl, serial⟩

end Traffic
end ReplyGateway.Recency
