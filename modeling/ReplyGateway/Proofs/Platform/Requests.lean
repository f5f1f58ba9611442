import Mathlib
import ReplyGateway.Platform.Client

namespace ReplyGateway

namespace Token

variable {σ : Type} {issuer : Issuer σ} {P : σ → Prop}

/-- A step of a call asks the issuer, or leaves its state alone. -/
theorem Stage.issuer_step (kept : ∀ tenant state, P state → P (issuer tenant state).2) (tenant : Credentials)
    (now : Nat) (store : KeyValue) {state : σ} (holds : P state) (s : Stage) :
    P (s.step issuer tenant now store state).issuer := by
  cases s with
  | reading => simp only [step]; split <;> exact holds
  | locking => simp only [step]; split <;> exact holds
  | asking => exact kept tenant state holds
  | awaiting result => cases result <;> exact holds
  | polling => simp only [step]; split <;> exact holds
  | _ => exact holds

namespace Schedule

theorem issuer_runWhile (kept : ∀ tenant state, P state → P (issuer tenant state).2)
    (goesOn : Schedule σ → Task → Bool) {s : Schedule σ} (holds : P s.issuer) :
    P (s.runWhile issuer goesOn).issuer := by
  fun_induction runWhile issuer goesOn s with
  | case1 => exact holds
  | case2 s before t after found goes ih => exact ih (t.stage.issuer_step kept t.tenant _ s.store holds)
  | case3 => exact holds

/-- What calls for tokens do to the state of an issuer is what asking it does. -/
theorem issuer_complete (kept : ∀ tenant state, P state → P (issuer tenant state).2) (calls : List Task)
    {s : Schedule σ} (holds : P s.issuer) : P (s.complete issuer calls).1.issuer :=
  issuer_runWhile kept _ (issuer_runWhile kept _ holds)

theorem issuer_token (kept : ∀ tenant state, P state → P (issuer tenant state).2) (tenant : Credentials)
    {s : Schedule σ} (holds : P s.issuer) : P (s.token issuer tenant).1.issuer :=
  issuer_complete kept _ holds

theorem issuer_replaceToken (kept : ∀ tenant state, P state → P (issuer tenant state).2) (tenant : Credentials)
    {s : Schedule σ} (holds : P s.issuer) : P (s.replaceToken issuer tenant).1.issuer :=
  issuer_complete kept _ holds

end Schedule
end Token

namespace Platform

variable {σ : Type}

/-- Answers as another service does, and keeps a list of the requests. -/
def recorded (service : Service σ) : Service (σ × List Request) := fun request state =>
  let (answer, next) := service request state.1
  (answer, next, state.2 ++ [request])

/-- Requests that are not for tokens. -/
def posted (requests : List Request) : List Request := requests.filter fun request => decide (request.method = .post)

/-- A call to the platform that needs a token. -/
structure Post where
  path : String
  body : Json.Value

namespace Post

def send (toUser : String) (r : Reply) : Post := ⟨sendPath, r.pushBodyTo toUser⟩

def typing (toUser : String) : Post := ⟨typingPath, typingBody toUser⟩

/-- Makes the call on behalf of a tenant. -/
def make (service : Service σ) (tenant : Credentials) (p : Post) (s : Token.Schedule σ) :
    Token.Schedule σ × Except Error Json.Value :=
  post service tenant p.path p.body s

/-- The request that a call comes to, if it got a token. -/
def request? (p : Post) (token : Except Error String) : Option Request :=
  token.toOption.map fun token => apiRequest p.path token p.body

end Post

section

variable (service : Service σ) (tenant : Credentials)

/-- Calls one after another, whatever each comes to. -/
def makeAll (posts : List Post) (s : Token.Schedule σ) : Token.Schedule σ :=
  posts.foldl (fun s p => (p.make service tenant s).1) s

/-- Calls one after another, each with the token that it got or what it got instead. -/
def attempts : List Post → Token.Schedule σ → List (Post × Except Error String)
  | [], _ => []
  | p :: rest, s => (p, (s.token (issuer service) tenant).2) :: attempts rest (p.make service tenant s).1

theorem map_attempts (posts : List Post) (s : Token.Schedule σ) :
    (attempts service tenant posts s).map (·.1) = posts := by
  induction posts generalizing s with
  | nil => rfl
  | cons p rest ih => rw [attempts, List.map_cons, ih]

theorem posted_issuer (posts : List Request) (tenant : Credentials) (state : σ × List Request)
    (same : posted state.2 = posts) : posted (issuer (recorded service) tenant state).2.2 = posts := by
  simp only [issuer, recorded, posted, List.filter_append]
  rw [← same]
  simp [posted, tokenRequest]

theorem issuer_check {P : σ → Prop} (kept : ∀ tenant state, P state → P (issuer service tenant state).2)
    (v : Json.Value) {s : Token.Schedule σ} (holds : P s.issuer) : P (check service tenant v s).1.issuer := by
  unfold check
  split
  · exact holds
  · split
    · exact Token.Schedule.issuer_replaceToken kept tenant holds
    · exact holds

/-- One call comes to one request, if there is a token for it. -/
theorem posted_make (p : Post) (s : Token.Schedule (σ × List Request)) :
    posted (p.make (recorded service) tenant s).1.issuer.2 =
      posted s.issuer.2 ++ (p.request? (s.token (issuer (recorded service)) tenant).2).toList := by
  have before : posted (s.token (issuer (recorded service)) tenant).1.issuer.2 = posted s.issuer.2 :=
    Token.Schedule.issuer_token (P := fun state : σ × List Request => posted state.2 = posted s.issuer.2)
      (posted_issuer service _) tenant rfl
  unfold Post.make post
  rcases got : s.token (issuer (recorded service)) tenant with ⟨after, e | token⟩
  · rw [got] at before
    simpa [Post.request?, Except.toOption] using before
  · rw [got] at before
    let request := apiRequest p.path token p.body
    have asked : posted (recorded service request after.issuer).2.2 = posted s.issuer.2 ++ [request] := by
      simp only [recorded, posted, List.filter_append]
      rw [← posted, before]
      rfl
    simp only [Post.request?, Except.toOption, Option.map_some, Option.toList_some]
    cases answerValue p.path (recorded service request after.issuer).1 with
    | error e => exact asked
    | ok v =>
      exact issuer_check (recorded service) tenant
        (P := fun state : σ × List Request => posted state.2 = posted s.issuer.2 ++ [request])
        (posted_issuer service _) v asked

/-- Each of several calls comes to its own request, in their order. -/
theorem posted_makeAll (posts : List Post) (s : Token.Schedule (σ × List Request)) :
    posted (makeAll (recorded service) tenant posts s).issuer.2 =
      posted s.issuer.2 ++
        (attempts (recorded service) tenant posts s).filterMap fun (p, token) => p.request? token := by
  induction posts generalizing s with
  | nil => simp [makeAll, attempts]
  | cons p rest ih =>
    rw [makeAll, List.foldl_cons, ← makeAll, ih, posted_make, attempts, List.append_assoc]
    cases got : p.request? (s.token (issuer (recorded service)) tenant).2 <;> simp [got]

end

end Platform
end ReplyGateway
