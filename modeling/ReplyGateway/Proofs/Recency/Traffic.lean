import Mathlib
import ReplyGateway.Recency.Shared

namespace ReplyGateway.Recency

/-- How far a call is. -/
inductive Progress (V ε : Type)
  | waiting
  /-- Has got the cache, and has not looked into it yet. -/
  | looking
  | constructing
  | ended (result : Except ε V)
  | cancelled

namespace Progress

variable {V ε : Type}

def hasCache : Progress V ε → Bool
  | looking | constructing => true
  | _ => false

def isOver : Progress V ε → Bool
  | ended _ | cancelled => true
  | _ => false

end Progress

/-- A call for the entry under a key, and how far it is. -/
structure Caller (K V ε : Type) where
  key : K
  progress : Progress V ε

/-- A cache, the call that has it, and the calls in the order in which they began. -/
structure Traffic (K V ε : Type) where
  cache : Recency K V
  holder : Option Nat
  callers : List (Caller K V ε)

/-- What happens to a call, by its place in the order in which the calls began. -/
inductive Event (K V ε : Type)
  | begins (call : Nat) (key : K)
  | acquires (call : Nat)
  | finds (call : Nat) (key : K) (value : V)
  /-- A construction begins. -/
  | constructs (call : Nat) (key : K)
  /-- A construction has ended. -/
  | constructed (call : Nat) (key : K) (result : Except ε V)
  | cancelled (call : Nat)

variable {K V ε : Type}

def Event.call : Event K V ε → Nat
  | begins call _ | acquires call | finds call _ _ | constructs call _ | constructed call _ _ | cancelled call => call

namespace Traffic

/-- A cache that no call has asked for yet. -/
def idle (cache : Recency K V) : Traffic K V ε := ⟨cache, none, []⟩

/-- Whether a call has got the cache and not given it back. -/
def HasCache (s : Traffic K V ε) (call : Nat) : Prop :=
  ∃ c, s.callers[call]? = some c ∧ c.progress.hasCache = true

theorem hasCache_set {s : Traffic K V ε} {call own : Nat} {c d : Caller K V ε} {cache : Recency K V}
    {holder : Option Nat} (found : s.callers[own]? = some c) :
    (⟨cache, holder, s.callers.set own d⟩ : Traffic K V ε).HasCache call ↔
      if call = own then d.progress.hasCache = true else s.HasCache call := by
  have bound := (List.getElem?_eq_some_iff.mp found).1
  split
  · rename_i same
    subst same
    simp [HasCache, bound]
  · rename_i foreign
    rw [HasCache, List.getElem?_set_ne (Ne.symm foreign), HasCache]

end Traffic

namespace Shared

/-- What a shared cache tells of the calls that have arrived is so in a traffic, where a call stands at the place that
is its number. -/
structure Follows (s : Shared K V ε) (arrived : Nat) (x : Traffic K V ε) : Prop where
  cache : x.cache = s.cache
  number : x.callers.length = arrived
  holder : x.holder = s.constructing.map Call.id
  constructing : ∀ call, s.constructing = some call → x.callers[call.id]? = some ⟨call.key, .constructing⟩
  line : ∀ call ∈ s.line, x.callers[call.id]? = some ⟨call.key, .waiting⟩
  distinct : (s.line.map Call.id).Nodup
  ended : ∀ e ∈ s.ended, ∃ key, x.callers[e.1]? = some ⟨key, .ended e.2⟩

theorem follows_idle [DecidableEq K] (cache : Recency K V) : (idle cache : Shared K V ε).Follows 0 (.idle cache) := by
  constructor <;> simp [idle, Traffic.idle]

end Shared

variable [DecidableEq K]

/-- What a cache is after a construction: one that fails leaves it as it is. -/
def keep (c : Recency K V) (key : K) : Except ε V → Recency K V
  | .ok value => c.add key value
  | .error _ => c

namespace Traffic

/-- Any call may begin at any time, and get the cache when nobody has it. It ends with what it finds, or with what its
construction comes to, and gives the cache back then, or when it is cancelled. -/
inductive Next : Traffic K V ε → Event K V ε → Traffic K V ε → Prop
  | begin {s : Traffic K V ε} {key : K} :
      Next s (.begins s.callers.length key) { s with callers := s.callers ++ [⟨key, .waiting⟩] }
  | acquire {s : Traffic K V ε} {call : Nat} {key : K} :
      s.callers[call]? = some ⟨key, .waiting⟩ → s.holder = none →
      Next s (.acquires call) ⟨s.cache, some call, s.callers.set call ⟨key, .looking⟩⟩
  | find {s : Traffic K V ε} {call : Nat} {key : K} {value : V} :
      s.callers[call]? = some ⟨key, .looking⟩ → s.cache.find? key = some value →
      Next s (.finds call key value) ⟨s.cache.touch key, none, s.callers.set call ⟨key, .ended (.ok value)⟩⟩
  | miss {s : Traffic K V ε} {call : Nat} {key : K} :
      s.callers[call]? = some ⟨key, .looking⟩ → s.cache.find? key = none →
      Next s (.constructs call key) { s with callers := s.callers.set call ⟨key, .constructing⟩ }
  | construct {s : Traffic K V ε} {call : Nat} {key : K} {result : Except ε V} :
      s.callers[call]? = some ⟨key, .constructing⟩ →
      Next s (.constructed call key result) ⟨s.cache.keep key result, none, s.callers.set call ⟨key, .ended result⟩⟩
  | cancel {s : Traffic K V ε} {call : Nat} {c : Caller K V ε} :
      s.callers[call]? = some c → c.progress.isOver = false →
      Next s (.cancelled call)
        ⟨s.cache, s.holder.filter fun holder => decide (holder ≠ call),
          s.callers.set call { c with progress := .cancelled }⟩

/-- A traffic comes to another one by events, one after another. -/
inductive Run (s : Traffic K V ε) : List (Event K V ε) → Traffic K V ε → Prop
  | start : Run s [] s
  | next {events : List (Event K V ε)} {t u : Traffic K V ε} {e : Event K V ε} :
      Run s events t → Next t e u → Run s (events ++ [e]) u

variable {s t u : Traffic K V ε} {e : Event K V ε} {events more : List (Event K V ε)} {call other : Nat} {key : K}
  {c d : Caller K V ε}

theorem Run.append (first : s.Run events t) (second : t.Run more u) : s.Run (events ++ more) u := by
  induction second with
  | start => simpa using first
  | next _ next ih => simpa using ih.next next

theorem Run.cons (next : s.Next e t) (run : t.Run events u) : s.Run (e :: events) u :=
  (Run.start.next next).append run

/-- An event changes no call but its own. -/
theorem Next.callers_of_ne (next : s.Next e u) (foreign : call ≠ e.call) : u.callers[call]? = s.callers[call]? := by
  cases next with
  | begin =>
    rcases Nat.lt_or_gt_of_ne foreign with old | beyond
    · exact List.getElem?_append_left old
    · change s.callers.length < call at beyond
      rw [List.getElem?_eq_none beyond.le, List.getElem?_eq_none (by simp; omega)]
  | _ => exact List.getElem?_set_ne (Ne.symm foreign)

/-- One call at most has the cache, and what it constructs is not there. -/
structure Orderly (s : Traffic K V ε) : Prop where
  holder_iff : ∀ call, s.holder = some call ↔ s.HasCache call
  absent : ∀ (call : Nat) (key : K), s.callers[call]? = some ⟨key, .constructing⟩ → s.cache.find? key = none

theorem orderly_idle (cache : Recency K V) : (idle cache : Traffic K V ε).Orderly where
  holder_iff := by simp [idle, HasCache]
  absent := by simp [idle]

theorem Orderly.holder_of_constructing (orderly : s.Orderly)
    (found : s.callers[call]? = some ⟨key, .constructing⟩) : s.holder = some call :=
  (orderly.holder_iff call).mpr ⟨_, found, rfl⟩

theorem Next.holder_iff (orderly : s.Orderly) (next : s.Next e u) (call : Nat) :
    u.holder = some call ↔ u.HasCache call := by
  have before := orderly.holder_iff call
  cases next with
  | begin =>
    simp only [before, HasCache]
    rcases Nat.lt_trichotomy call s.callers.length with old | rfl | beyond
    · rw [List.getElem?_append_left old]
    · simp [Progress.hasCache]
    · rw [List.getElem?_eq_none beyond.le, List.getElem?_eq_none (by simp; omega)]
  | @acquire own _ found free =>
    have nobody : ¬ s.HasCache call := by simp [← before, free]
    rw [hasCache_set found]
    by_cases same : call = own
    · simp [same, Progress.hasCache]
    · simp [same, nobody, Ne.symm same]
  | @find own _ _ found =>
    have only : s.holder = some own := (orderly.holder_iff own).mpr ⟨_, found, rfl⟩
    rw [hasCache_set found, ← before, only]
    by_cases same : call = own
    · simp [same, Progress.hasCache]
    · simp [same, Ne.symm same]
  | @miss own _ found =>
    have only : s.holder = some own := (orderly.holder_iff own).mpr ⟨_, found, rfl⟩
    rw [hasCache_set found, ← before]
    by_cases same : call = own <;> simp [same, Progress.hasCache, only]
  | @construct own _ _ found =>
    rw [hasCache_set found, ← before, orderly.holder_of_constructing found]
    by_cases same : call = own
    · simp [same, Progress.hasCache]
    · simp [same, Ne.symm same]
  | @cancel own _ found =>
    rw [hasCache_set found, ← before]
    by_cases same : call = own <;> simp [same, Progress.hasCache, Option.filter_eq_some_iff]

/-- One event leaves a traffic orderly. -/
theorem Next.orderly (orderly : s.Orderly) (next : s.Next e u) : u.Orderly := by
  refine ⟨next.holder_iff orderly, fun call key found => ?_⟩
  have holds : u.holder = some call := (next.holder_iff orderly call).mpr ⟨_, found, rfl⟩
  cases next with
  | begin =>
    have old : call < s.callers.length := by
      obtain ⟨_, there, _⟩ := (orderly.holder_iff call).mp holds
      exact (List.getElem?_eq_some_iff.mp there).1
    exact orderly.absent call key ((List.getElem?_append_left old).symm.trans found)
  | acquire there =>
    obtain rfl := Option.some.inj holds
    simp [List.getElem?_set_self (List.getElem?_eq_some_iff.mp there).1] at found
  | find => cases holds
  | @miss own _ there missing =>
    by_cases same : call = own
    · subst same
      rw [List.getElem?_set_self (List.getElem?_eq_some_iff.mp there).1] at found
      obtain ⟨rfl, _⟩ := Caller.mk.inj (Option.some.inj found)
      exact missing
    · rw [List.getElem?_set_ne (Ne.symm same)] at found
      exact orderly.absent call key found
  | construct => cases holds
  | @cancel own _ there =>
    obtain ⟨_, foreign⟩ := Option.filter_eq_some_iff.mp holds
    rw [List.getElem?_set_ne (Ne.symm (of_decide_eq_true foreign))] at found
    exact orderly.absent call key found

/-- Who has the cache is at work on it, and what it constructs is not there, whatever happened. -/
theorem Run.orderly (orderly : s.Orderly) (run : s.Run events t) : t.Orderly := by
  induction run with
  | start => exact orderly
  | next _ next ih => exact next.orderly ih

/-- Events of other calls leave a call as it is. -/
theorem Run.callers_of_ne (run : s.Run events t) (foreign : ∀ e ∈ events, call ≠ e.call) :
    t.callers[call]? = s.callers[call]? := by
  induction run with
  | start => rfl
  | next _ next ih =>
    refine (next.callers_of_ne (foreign _ (by simp))).trans (ih fun e member => ?_)
    exact foreign e (List.mem_append_left _ member)

end Traffic

namespace Shared

variable {s : Shared K V ε} {x y : Traffic K V ε} {cache after : Recency K V} {ended : List (Nat × Except ε V)}
  {line : List (Call K)} {call : Call K} {arrived : Nat} {events : List (Event K V ε)}

/-- The call that stands first does something, and the others wait on. -/
theorem Follows.of_first (constructing : Option (Call K)) (more : List (Nat × Except ε V))
    (follows : (⟨cache, none, call :: line, ended⟩ : Shared K V ε).Follows arrived x) (run : x.Run events y)
    (own : ∀ e ∈ events, e.call = call.id) (changes : y.cache = after)
    (number : y.callers.length = x.callers.length) (holder : y.holder = constructing.map Call.id)
    (constructs : ∀ call, constructing = some call → y.callers[call.id]? = some ⟨call.key, .constructing⟩)
    (ends : ∀ e ∈ more, ∃ key, y.callers[e.1]? = some ⟨key, .ended e.2⟩) :
    (⟨after, constructing, line, ended ++ more⟩ : Shared K V ε).Follows arrived y := by
  have distinct := List.nodup_cons.mp follows.distinct
  have number := number.trans follows.number
  refine ⟨changes, number, holder, constructs, fun other member => ?_, distinct.2, fun e member => ?_⟩
  · refine (run.callers_of_ne fun e among same => ?_).trans (follows.line other (List.mem_cons_of_mem _ member))
    exact distinct.1 (List.mem_map.mpr ⟨other, member, same.trans (own e among)⟩)
  · rcases List.mem_append.mp member with old | new
    · obtain ⟨key, found⟩ := follows.ended e old
      refine ⟨key, (run.callers_of_ne fun e' among same => ?_).trans found⟩
      have waiting := follows.line call (List.mem_cons_self ..)
      rw [← own e' among, ← same, found] at waiting
      cases waiting
    · exact ends e new

/-- Serving a line is one order of its calls. -/
theorem Follows.serve (follows : (⟨cache, none, line, ended⟩ : Shared K V ε).Follows arrived x) :
    ∃ events y, x.Run events y ∧ (Shared.serve cache ended line).Follows arrived y := by
  induction line generalizing cache ended x with
  | nil => exact ⟨[], x, .start, follows⟩
  | cons call line ih =>
    obtain rfl := follows.cache
    have waiting := follows.line call (List.mem_cons_self ..)
    have acquires := Traffic.Next.acquire waiting follows.holder
    have bound := (List.getElem?_eq_some_iff.mp waiting).1
    have looking : (x.callers.set call.id ⟨call.key, .looking⟩)[call.id]? = some ⟨call.key, .looking⟩ :=
      List.getElem?_set_self bound
    unfold Shared.serve
    cases found : x.cache.find? call.key with
    | some value =>
      have finds := Traffic.Next.find (s := ⟨x.cache, some call.id, _⟩) looking found
      have run := (Traffic.Run.start.next acquires).next finds
      obtain ⟨events, y, later, served⟩ := ih (follows.of_first none [(call.id, .ok value)]
        run (by simp [Event.call]) rfl (by simp) rfl (by simp) (by simp [bound]))
      exact ⟨_, y, run.append later, served⟩
    | none =>
      have misses := Traffic.Next.miss (s := ⟨x.cache, some call.id, _⟩) looking found
      have run := (Traffic.Run.start.next acquires).next misses
      have served := follows.of_first (some call) [] run (by simp [Event.call]) rfl (by simp) rfl
        (by simp [bound]) (by simp)
      rw [List.append_nil] at served
      exact ⟨_, _, run, served⟩

theorem Follows.settle (follows : s.Follows arrived x) :
    ∃ events y, x.Run events y ∧ s.settle.Follows arrived y := by
  obtain ⟨cache, constructing, line, ended⟩ := s
  cases constructing with
  | none => exact follows.serve
  | some call => exact ⟨[], x, .start, follows⟩

/-- A call that arrives stands in line, and perhaps is served at once. -/
theorem Follows.arrive (follows : s.Follows arrived x) (key : K) :
    ∃ events y, x.Run events y ∧ (s.arrive ⟨arrived, key⟩).Follows (arrived + 1) y := by
  obtain rfl := follows.number
  have begins := @Traffic.Next.begin K V ε _ x key
  have kept {place : Nat} {c : Caller K V ε} (found : x.callers[place]? = some c) :
      (x.callers ++ [⟨key, .waiting⟩])[place]? = some c :=
    (List.getElem?_append_left (List.getElem?_eq_some_iff.mp found).1).trans found
  have begun : ({ s with line := s.line ++ [⟨x.callers.length, key⟩] } : Shared K V ε).Follows
      (x.callers.length + 1) { x with callers := x.callers ++ [⟨key, .waiting⟩] } := by
    have constructing := fun c at' => kept (follows.constructing c at')
    refine ⟨follows.cache, List.length_append, follows.holder, constructing, ?_, ?_, ?_⟩
    · intro c member
      rcases List.mem_append.mp member with old | last
      · exact kept (follows.line c old)
      · rw [List.mem_singleton.mp last]
        exact List.getElem?_concat_length
    · rw [List.map_append, List.nodup_append]
      refine ⟨follows.distinct, by simp, ?_⟩
      rintro place among _ last rfl
      obtain ⟨c, member, rfl⟩ := List.mem_map.mp among
      have bound := (List.getElem?_eq_some_iff.mp (follows.line c member)).1
      simp only [List.map_singleton, List.mem_singleton] at last
      omega
    · exact fun e member => (follows.ended e member).imp fun _ => kept
  obtain ⟨events, y, run, served⟩ := begun.settle
  exact ⟨_, y, .cons begins run, served⟩

/-- A construction that ends is an event, and the line is served after it. -/
theorem Follows.complete (follows : s.Follows arrived x) (result : Except ε V) :
    ∃ events y, x.Run events y ∧ (s.complete result).Follows arrived y := by
  obtain ⟨cache, constructing, line, ended⟩ := s
  cases constructing with
  | none => exact ⟨[], x, .start, follows⟩
  | some call =>
    obtain rfl := follows.cache
    have here := follows.constructing call rfl
    have constructed : x.Next (.constructed call.id call.key result) _ := .construct here
    have kept {place : Nat} {c : Caller K V ε} (found : x.callers[place]? = some c)
        (other : c.progress ≠ .constructing) : (x.callers.set call.id ⟨call.key, .ended result⟩)[place]? = some c := by
      refine (List.getElem?_set_ne ?_).trans found
      rintro rfl
      obtain rfl := Option.some.inj (here.symm.trans found)
      exact other rfl
    have done : (⟨x.cache.keep call.key result, none, line, ended ++ [(call.id, result)]⟩ : Shared K V ε).Follows
        arrived ⟨x.cache.keep call.key result, none, x.callers.set call.id ⟨call.key, .ended result⟩⟩ := by
      have waiting := fun c member => kept (follows.line c member) (by simp)
      refine ⟨rfl, by simp [follows.number], rfl, by simp, waiting, follows.distinct, ?_⟩
      intro e member
      rcases List.mem_append.mp member with old | last
      · obtain ⟨key, found⟩ := follows.ended e old
        exact ⟨key, kept found (by simp)⟩
      · rw [List.mem_singleton.mp last]
        exact ⟨call.key, List.getElem?_set_self (List.getElem?_eq_some_iff.mp here).1⟩
    obtain ⟨events, y, run, served⟩ := done.serve
    refine ⟨_, y, .cons constructed run, ?_⟩
    cases result <;> exact served

/-- Giving up a call is an event, and the line is served after it. -/
theorem Follows.cancel (follows : s.Follows arrived x) (id : Nat) :
    ∃ events y, x.Run events y ∧ (s.cancel id).Follows arrived y := by
  suffices gone : ∃ events y, x.Run events y ∧ Follows
      { s with
        constructing := s.constructing.filter fun call => decide (call.id ≠ id)
        line := s.line.filter fun call => decide (call.id ≠ id) } arrived y by
    obtain ⟨events, y, run, follows⟩ := gone
    obtain ⟨more, z, later, served⟩ := follows.settle
    exact ⟨_, z, run.append later, served⟩
  by_cases working : ∃ c, x.callers[id]? = some c ∧ c.progress.isOver = false
  · obtain ⟨c, found, working⟩ := working
    have kept {place : Nat} {d : Caller K V ε} (other : place ≠ id) (there : x.callers[place]? = some d) :
        (x.callers.set id { c with progress := .cancelled })[place]? = some d :=
      (List.getElem?_set_ne other.symm).trans there
    refine ⟨_, _, Traffic.Run.start.next (.cancel found working), follows.cache, ?_, ?_, ?_, ?_, ?_, ?_⟩
    · simp [follows.number]
    · simp only [follows.holder]
      cases s.constructing with
      | none => rfl
      | some call => by_cases same : call.id = id <;> simp [Option.filter, same]
    · intro call among
      obtain ⟨at', other⟩ := Option.filter_eq_some_iff.mp among
      exact kept (of_decide_eq_true other) (follows.constructing call at')
    · intro call among
      obtain ⟨member, other⟩ := List.mem_filter.mp among
      exact kept (of_decide_eq_true other) (follows.line call member)
    · exact follows.distinct.sublist (List.filter_sublist.map _)
    · intro e member
      obtain ⟨key, there⟩ := follows.ended e member
      refine ⟨key, kept ?_ there⟩
      rintro rfl
      obtain rfl := Option.some.inj (there.symm.trans found)
      cases working
  · have foreign {call : Call K} {p : Progress V ε} (there : x.callers[call.id]? = some ⟨call.key, p⟩)
        (atWork : p.isOver = false) : decide (call.id ≠ id) = true := by
      refine decide_eq_true ?_
      rintro rfl
      exact working ⟨_, there, atWork⟩
    have constructing : s.constructing.filter (fun call => decide (call.id ≠ id)) = s.constructing := by
      cases at' : s.constructing with
      | none => rfl
      | some call => exact if_pos (foreign (follows.constructing call at') rfl)
    have line : s.line.filter (fun call => decide (call.id ≠ id)) = s.line :=
      List.filter_eq_self.mpr fun call member => foreign (follows.line call member) rfl
    rw [constructing, line]
    exact ⟨[], x, .start, follows⟩

/-- A shared cache comes to this after some calls, numbered as they arrive, whatever their constructions came to and
whichever of them were given up. -/
inductive Reached (cache : Recency K V) : Shared K V ε → Nat → Prop
  | idle : Reached cache (.idle cache) 0
  | arrive {s : Shared K V ε} {arrived : Nat} (key : K) :
      Reached cache s arrived → Reached cache (s.arrive ⟨arrived, key⟩) (arrived + 1)
  | complete {s : Shared K V ε} {arrived : Nat} (result : Except ε V) :
      Reached cache s arrived → Reached cache (s.complete result) arrived
  | cancel {s : Shared K V ε} {arrived : Nat} (id : Nat) :
      Reached cache s arrived → Reached cache (s.cancel id) arrived

theorem Reached.finish {σ : Type} (construct : K → σ → Except ε V × σ) (state : σ) (reached : Reached cache s arrived) :
    Reached cache (s.finish construct state).1 arrived := by
  fun_induction Shared.finish construct s state with
  | case1 => exact reached
  | case2 s state call constructing result next built ih => exact ih (reached.complete result)

/-- Whatever a shared cache comes to is one of the orders in which its calls may happen. -/
theorem Reached.exists_run (reached : Reached cache s arrived) :
    ∃ events y, (Traffic.idle cache).Run events y ∧ s.Follows arrived y := by
  induction reached with
  | idle => exact ⟨[], _, .start, follows_idle cache⟩
  | arrive key _ ih =>
    obtain ⟨_, x, run, follows⟩ := ih
    obtain ⟨_, y, later, follows⟩ := follows.arrive key
    exact ⟨_, y, run.append later, follows⟩
  | complete result _ ih =>
    obtain ⟨_, x, run, follows⟩ := ih
    obtain ⟨_, y, later, follows⟩ := follows.complete result
    exact ⟨_, y, run.append later, follows⟩
  | cancel id _ ih =>
    obtain ⟨_, x, run, follows⟩ := ih
    obtain ⟨_, y, later, follows⟩ := follows.cancel id
    exact ⟨_, y, run.append later, follows⟩

end Shared
end ReplyGateway.Recency
