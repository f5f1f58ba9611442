import Mathlib
import ReplyGateway.Proofs.Platform.Requests
import ReplyGateway.Proofs.Token.Sequence

namespace ReplyGateway.Platform

open Json (Value)

/-- What an answer means for a call to the platform. -/
inductive Verdict
  | settled (outcome : Except Error Value)
  /-- The token was rejected: another one is to be got before the call ends. -/
  | rejected (v : Value)

/-- What an answer means: the token is rejected, or the call is settled. -/
def verdict (path : String) (answer : Option Answer) : Verdict :=
  match answerValue path answer with
  | .error e => .settled (.error e)
  | .ok v =>
    if errorCode v = 0 then .settled (.ok v)
    else if (refusal v).isTokenInvalid then .rejected v
    else .settled (.error (refusal v))

/-- How far a call to the platform is. -/
inductive Progress
  /-- Waits for a token. -/
  | fetching
  /-- Has sent its request, and waits for the answer. -/
  | sent
  /-- Waits for a call by which the rejected token is replaced. -/
  | replacing (call : Nat) (v : Value)
  | ended (outcome : Except Error Value)

/-- A call to the platform beside others, with the place of its call for a token among those. -/
structure Posting where
  tenant : Credentials
  post : Post
  call : Nat
  progress : Progress

/-- Calls to the platform side by side, interleaved in any order with each other and with calls for tokens. Answers
may be anything. -/
structure Traffic where
  tokens : Token.Traffic
  posts : List Posting

/-- What happens: to a call for a token, or to a call to the platform by its place among those. -/
inductive Event
  | calls (e : Token.Event)
  | begins (post : Nat) (e : Token.Event)
  | sends (post : Nat) (request : Request)
  | replaces (post : Nat) (e : Token.Event)
  | ends (post : Nat)

def Event.call? : Event → Option Token.Event
  | calls e | begins _ e | replaces _ e => some e
  | sends _ _ | ends _ => none

def Event.request? : Event → Option Request
  | sends _ request => some request
  | _ => none

namespace Traffic

def outcome? (s : Traffic) (call : Nat) : Option (Except Error (Option String)) :=
  s.tokens.callers[call]?.bind fun c => c.stage.outcome?

def put (s : Traffic) (post : Nat) (p : Posting) : Traffic := { s with posts := s.posts.set post p }

/-- A call to the platform begins with a call for a token, sends its request with the token that this comes to, and
when the token is rejected, begins a call that replaces it. -/
inductive Next : Traffic → Event → Traffic → Prop
  | call {s : Traffic} {e : Token.Event} {tokens : Token.Traffic} : s.tokens.Next e tokens →
      Next s (.calls e) { s with tokens := tokens }
  | begin {s : Traffic} {tenant : Credentials} {p : Post} {instant : Nat} {tokens : Token.Traffic} :
      s.tokens.Next ⟨instant, s.tokens.callers.length, tenant, .begins .reading⟩ tokens →
      Next s (.begins s.posts.length ⟨instant, s.tokens.callers.length, tenant, .begins .reading⟩)
        ⟨tokens, s.posts ++ [⟨tenant, p, s.tokens.callers.length, .fetching⟩]⟩
  | send {s : Traffic} {post : Nat} {p : Posting} {outcome : Except Error (Option String)} {token : String} :
      s.posts[post]? = some p → p.progress = .fetching → s.outcome? p.call = some outcome →
      Token.Schedule.required p.tenant outcome = .ok token →
      Next s (.sends post (apiRequest p.post.path token p.post.body)) (s.put post { p with progress := .sent })
  | fail {s : Traffic} {post : Nat} {p : Posting} {outcome : Except Error (Option String)} {e : Error} :
      s.posts[post]? = some p → p.progress = .fetching → s.outcome? p.call = some outcome →
      Token.Schedule.required p.tenant outcome = .error e →
      Next s (.ends post) (s.put post { p with progress := .ended (.error e) })
  | answer {s : Traffic} {post : Nat} {p : Posting} {answer : Option Answer} {outcome : Except Error Value} :
      s.posts[post]? = some p → p.progress = .sent → verdict p.post.path answer = .settled outcome →
      Next s (.ends post) (s.put post { p with progress := .ended outcome })
  | replace {s : Traffic} {post : Nat} {p : Posting} {answer : Option Answer} {v : Value} {instant : Nat}
      {tokens : Token.Traffic} :
      s.posts[post]? = some p → p.progress = .sent → verdict p.post.path answer = .rejected v →
      s.tokens.Next ⟨instant, s.tokens.callers.length, p.tenant, .begins .dropping⟩ tokens →
      Next s (.replaces post ⟨instant, s.tokens.callers.length, p.tenant, .begins .dropping⟩)
        (Traffic.put ⟨tokens, s.posts⟩ post { p with progress := .replacing s.tokens.callers.length v })
  | conclude {s : Traffic} {post call : Nat} {p : Posting} {v : Value} {outcome : Except Error (Option String)} :
      s.posts[post]? = some p → p.progress = .replacing call v → s.outcome? call = some outcome →
      Next s (.ends post) (s.put post { p with
        progress := .ended ((Token.Schedule.required p.tenant outcome).bind fun _ => .error (refusal v)) })

inductive Run (s : Traffic) : List Event → Traffic → Prop
  | start : Run s [] s
  | next {events : List Event} {t u : Traffic} {e : Event} : Run s events t → Next t e u → Run s (events ++ [e]) u

def calls (events : List Event) : List Token.Event := events.filterMap Event.call?

variable {s t u : Traffic} {e : Event} {events more : List Event} {post : Nat} {p : Posting}

theorem calls_append (events more : List Event) : calls (events ++ more) = calls events ++ calls more :=
  List.filterMap_append

theorem Next.calls_run (next : s.Next e u) : s.tokens.Run (calls [e]) u.tokens := by
  cases next with
  | call next => exact Token.Traffic.Run.start.next next
  | begin next => exact Token.Traffic.Run.start.next next
  | replace _ _ _ next => exact Token.Traffic.Run.start.next next
  | _ => exact .start

/-- The calls for tokens among all others are a run by themselves. -/
theorem Run.calls_run (run : s.Run events t) : s.tokens.Run (calls events) t.tokens := by
  induction run with
  | start => exact .start
  | next _ next ih =>
    rw [calls_append]
    exact ih.append next.calls_run

/-- What a call to the platform is for, and how it gets its token, stays as it is. -/
theorem Next.post_kept (next : s.Next e u) (found : s.posts[post]? = some p) :
    ∃ q, u.posts[post]? = some q ∧ q.tenant = p.tenant ∧ q.call = p.call := by
  have bound := (List.getElem?_eq_some_iff.mp found).1
  have put {tokens : Token.Traffic} {other : Nat} {q r : Posting} (there : s.posts[other]? = some q)
      (tenant : r.tenant = q.tenant) (call : r.call = q.call) :
      ∃ q, (Traffic.put ⟨tokens, s.posts⟩ other r).posts[post]? = some q ∧ q.tenant = p.tenant ∧ q.call = p.call := by
    by_cases same : other = post
    · subst same
      obtain rfl := Option.some.inj (there.symm.trans found)
      exact ⟨r, List.getElem?_set_self bound, tenant, call⟩
    · exact ⟨p, (List.getElem?_set_ne same).trans found, rfl, rfl⟩
  cases next with
  | call => exact ⟨p, found, rfl, rfl⟩
  | begin => exact ⟨p, (List.getElem?_append_left bound).trans found, rfl, rfl⟩
  | send there => exact put there rfl rfl
  | fail there => exact put there rfl rfl
  | answer there => exact put there rfl rfl
  | replace there => exact put there rfl rfl
  | conclude there => exact put there rfl rfl

theorem Run.post_kept (run : s.Run events u) (found : s.posts[post]? = some p) :
    ∃ q, u.posts[post]? = some q ∧ q.tenant = p.tenant ∧ q.call = p.call := by
  induction run with
  | start => exact ⟨p, found, rfl, rfl⟩
  | next _ next ih =>
    obtain ⟨q, found, tenant, call⟩ := ih
    obtain ⟨r, found', tenant', call'⟩ := next.post_kept found
    exact ⟨r, found', tenant'.trans tenant, call'.trans call⟩

theorem Run.append (first : s.Run events t) (second : t.Run more u) : s.Run (events ++ more) u := by
  induction second with
  | start => simpa using first
  | next _ next ih => simpa using ih.next next

theorem Run.last (run : s.Run (events ++ [e]) u) : ∃ t, s.Run events t ∧ t.Next e u := by
  generalize joined : events ++ [e] = all at run
  cases run with
  | start => simp at joined
  | next run next =>
    obtain ⟨rfl, rfl⟩ := List.append_inj' joined rfl |>.imp id (List.cons.inj · |>.1)
    exact ⟨_, run, next⟩

theorem Run.split (run : s.Run (events ++ more) u) : ∃ t, s.Run events t ∧ t.Run more u := by
  induction more using List.reverseRecOn generalizing u with
  | nil => exact ⟨u, by simpa using run, .start⟩
  | append_singleton more e ih =>
    rw [← List.append_assoc] at run
    obtain ⟨v, past, next⟩ := run.last
    obtain ⟨t, first, second⟩ := ih past
    exact ⟨t, first, second.next next⟩

theorem Run.split_cons (run : s.Run (events ++ e :: more) t) :
    ∃ a b, s.Run events a ∧ a.Next e b ∧ b.Run more t := by
  rw [List.append_cons] at run
  obtain ⟨b, past, future⟩ := run.split
  obtain ⟨a, past, next⟩ := past.last
  exact ⟨a, b, past, next, future⟩

/-- A call to the platform that begins asks for its token at once, by a call that begins with it. -/
theorem Next.posting_of_begins {e : Token.Event} (next : s.Next (.begins post e) u) :
    e.call = s.tokens.callers.length ∧ (∃ q, u.posts[post]? = some q ∧ q.tenant = e.tenant ∧ q.call = e.call) ∧
      ∃ c, u.tokens.callers[e.call]? = some c ∧ c.tenant = e.tenant := by
  cases next with
  | begin next =>
    refine ⟨rfl, ⟨_, List.getElem?_concat_length, rfl, rfl⟩, ?_⟩
    cases next with
    | begin => exact ⟨_, List.getElem?_concat_length, rfl⟩

/-- A request is sent with the token that the call for it came to. -/
theorem Next.token_of_sends {request : Request} (next : s.Next (.sends post request) u) :
    ∃ q outcome token, s.posts[post]? = some q ∧ s.outcome? q.call = some outcome ∧
      Token.Schedule.required q.tenant outcome = .ok token ∧ request.query = [("access_token", token)] := by
  cases next with
  | send found _ ended granted => exact ⟨_, _, _, found, ended, granted, rfl⟩

/-- Calls for tokens go on beside the calls to the platform. -/
theorem Run.of_calls {tokens after : Token.Traffic} {events : List Token.Event} (run : tokens.Run events after)
    (posts : List Posting) : Run ⟨tokens, posts⟩ (events.map .calls) ⟨after, posts⟩ := by
  induction run with
  | start => exact .start
  | next _ next ih =>
    rw [List.map_append]
    exact ih.next (.call next)

def requests (events : List Event) : List Request := events.filterMap Event.request?

theorem requests_append (events more : List Event) : requests (events ++ more) = requests events ++ requests more :=
  List.filterMap_append

theorem requests_map_calls (events : List Token.Event) : requests (events.map .calls) = [] := by
  simp [requests, Event.request?]

end Traffic

section

variable {σ : Type} (service : Service σ) (tenant : Credentials) (p : Post)

/-- What is left of a call to the platform when the answer to its request has come. -/
def settle (s : Token.Schedule σ) : Verdict → Token.Schedule σ × Except Error Value
  | .settled outcome => (s, outcome)
  | .rejected v =>
    let (s, replaced) := s.replaceToken (issuer service) tenant
    (s, replaced.bind fun _ => .error (refusal v))

/-- A call that has its token sends one request, and is settled by the answer. -/
theorem make_of_token (s : Token.Schedule σ) {after : Token.Schedule σ} {token : String}
    (got : s.token (issuer service) tenant = (after, .ok token)) :
    p.make service tenant s =
      let (answer, platform) := service (apiRequest p.path token p.body) after.issuer
      settle service tenant { after with issuer := platform } (verdict p.path answer) := by
  simp only [Post.make, post, got, verdict]
  cases answerValue p.path (service (apiRequest p.path token p.body) after.issuer).1 with
  | error e => rfl
  | ok v =>
    simp only [check]
    split
    · rfl
    · split <;> rfl

variable {s : Token.Schedule σ} {x : Traffic} {places : List Nat} (q : Posting) (posts : List Posting)

theorem put_last {tokens : Token.Traffic} (r : Posting) :
    Traffic.put ⟨tokens, posts ++ [q]⟩ posts.length r = ⟨tokens, posts ++ [r]⟩ := by
  simp [Traffic.put]

/-- A call to the platform begins by getting a token. -/
theorem exists_run_token (follows : s.Follows x.tokens places) :
    ∃ events tokens kept outcome,
      x.Run events ⟨tokens, x.posts ++ [⟨tenant, p, x.tokens.callers.length, .fetching⟩]⟩ ∧
        (s.token (issuer service) tenant).1.Follows tokens kept ∧ Traffic.requests events = [] ∧
        Traffic.outcome? ⟨tokens, x.posts ++ [⟨tenant, p, x.tokens.callers.length, .fetching⟩]⟩
          x.tokens.callers.length = some outcome ∧
        (s.token (issuer service) tenant).2 = Token.Schedule.required tenant outcome := by
  obtain ⟨begun, events, tokens, kept, next, run, follows, c, found, ended⟩ :=
    follows.call (issuer service) tenant .reading rfl
  have begins := Traffic.Run.start.next (Traffic.Next.begin (s := x) (p := p) next)
  let outcome := (s.call (issuer service) tenant .reading).2
  refine ⟨_, tokens, kept, outcome, begins.append (Traffic.Run.of_calls run _), follows, ?_, ?_, rfl⟩
  · rw [Traffic.requests_append, Traffic.requests_map_calls]
    rfl
  · simp only [Traffic.outcome?, found, Option.bind_some, ended, outcome]

/-- When the answer to its request has come, a call to the platform ends, maybe with another token got before. -/
theorem exists_run_settle (answer : Option Answer) {tokens : Token.Traffic} (follows : s.Follows tokens places)
    (sent : q.progress = .sent) :
    ∃ events after kept, Traffic.Run ⟨tokens, posts ++ [q]⟩ events
        ⟨after, posts ++ [{ q with progress := .ended (settle service q.tenant s (verdict q.post.path answer)).2 }]⟩ ∧
      (settle service q.tenant s (verdict q.post.path answer)).1.Follows after kept ∧ Traffic.requests events = [] := by
  cases judged : verdict q.post.path answer with
  | settled outcome =>
    have next := Traffic.Next.answer (s := ⟨tokens, posts ++ [q]⟩) List.getElem?_concat_length sent judged
    rw [put_last] at next
    exact ⟨_, tokens, places, Traffic.Run.start.next next, follows, rfl⟩
  | rejected v =>
    obtain ⟨begun, events, after, kept, next, run, follows, c, found, ended⟩ :=
      follows.call (issuer service) q.tenant .dropping rfl
    let r : Posting := { q with progress := .replacing tokens.callers.length v }
    have replaces := Traffic.Next.replace (s := ⟨tokens, posts ++ [q]⟩) List.getElem?_concat_length sent judged next
    rw [put_last] at replaces
    have outcome : Traffic.outcome? ⟨after, posts ++ [r]⟩ tokens.callers.length =
        some (s.call (issuer service) q.tenant .dropping).2 := by
      simp only [Traffic.outcome?, found, Option.bind_some, ended]
    have concludes := Traffic.Next.conclude (p := r) (v := v) List.getElem?_concat_length rfl outcome
    rw [put_last] at concludes
    have first := (Traffic.Run.start.next replaces).append (Traffic.Run.of_calls run (posts ++ [r]))
    refine ⟨_, after, kept, first.next concludes, follows, ?_⟩
    rw [Traffic.requests_append, Traffic.requests_append, Traffic.requests_map_calls]
    rfl

/-- A call to the platform that is made alone is one order of what happens. It ends with what it gives, and sends one
request if it got a token. -/
theorem exists_run_make (follows : s.Follows x.tokens places) :
    ∃ events y kept q, x.Run events y ∧ (p.make service tenant s).1.Follows y.tokens kept ∧ y.posts = x.posts ++ [q] ∧
      q.progress = .ended (p.make service tenant s).2 ∧
      Traffic.requests events = (p.request? (s.token (issuer service) tenant).2).toList := by
  obtain ⟨events, tokens, kept, outcome, run, follows, none, ended, comesTo⟩ :=
    exists_run_token service tenant p follows
  let fetching : Posting := ⟨tenant, p, x.tokens.callers.length, .fetching⟩
  rcases got : s.token (issuer service) tenant with ⟨after, e | token⟩
  · rw [got] at follows comesTo
    have refused : Token.Schedule.required tenant outcome = .error e := comesTo.symm
    have fails := Traffic.Next.fail (p := fetching) List.getElem?_concat_length rfl ended refused
    rw [put_last] at fails
    have make : p.make service tenant s = (after, .error e) := by simp only [Post.make, post, got]
    refine ⟨_, _, kept, _, run.next fails, make ▸ follows, rfl, make ▸ rfl, ?_⟩
    rw [Traffic.requests_append, none]
    rfl
  · rw [got] at follows comesTo
    have granted : Token.Schedule.required tenant outcome = .ok token := comesTo.symm
    have sends := Traffic.Next.send (p := fetching) List.getElem?_concat_length rfl ended granted
    rw [put_last] at sends
    rw [make_of_token service tenant p s got]
    let asked := service (apiRequest p.path token p.body) after.issuer
    have later : ({ after with issuer := asked.2 } : Token.Schedule σ).Follows tokens kept :=
      ⟨follows.now, follows.store, follows.distinct, follows.has⟩
    obtain ⟨more, tokens', kept', run', follows', none'⟩ :=
      exists_run_settle service { fetching with progress := .sent } x.posts asked.1 later rfl
    refine ⟨_, _, kept', _, (run.next sends).append run', follows', rfl, rfl, ?_⟩
    rw [Traffic.requests_append, Traffic.requests_append, none, none']
    rfl

end

end ReplyGateway.Platform
