import Mathlib
import ReplyGateway.Proofs.Platform.Traffic
import ReplyGateway.Proofs.Token.Replacement

namespace ReplyGateway.Platform

open Json (Document Value)

section Members

/-- An object has a member with this name. Of several, this is the last one. -/
def HasMember (v : Value) (name : String) (w : Value) : Prop :=
  ∃ before after, v = .object (before ++ (name, w) :: after) ∧ name ∉ after.map Prod.fst

/-- The answer has an error code of 64 bits that is not zero. -/
def Refuses (v : Value) (code : Int) : Prop :=
  HasMember v "errcode" (.number (.integer code)) ∧ isInt64 code = true ∧ code ≠ 0

/-- The error message of an answer, empty if there is none that is a text. -/
def Tells (v : Value) (message : String) : Prop :=
  HasMember v "errmsg" (.string message) ∨ message = "" ∧ ∀ s, ¬ HasMember v "errmsg" (.string s)

variable {v w : Value} {name message : String} {code : Int}

theorem member?_eq_some_iff : member? name v = some w ↔ HasMember v name w := by
  constructor
  · intro found
    unfold member? at found
    split at found
    · rename_i members
      obtain ⟨⟨other, u⟩, first, rfl⟩ := Option.map_eq_some_iff.mp found
      obtain ⟨named, after, before, reversed, none⟩ := List.find?_eq_some_iff_append.mp first
      obtain rfl : other = name := by simpa using named
      refine ⟨before.reverse, after.reverse, ?_, ?_⟩
      · have split := congrArg List.reverse reversed
        rw [List.reverse_reverse] at split
        rw [split]
        simp
      · rw [List.map_reverse, List.mem_reverse, List.mem_map]
        rintro ⟨m, member, rfl⟩
        simpa using none m member
    · cases found
  · rintro ⟨before, after, rfl, last⟩
    have skipped : after.reverse.find? (fun m => some m.1 == some name) = none := by
      rw [List.find?_eq_none]
      intro m member same
      have named : m.1 = name := by simpa using same
      exact last (List.mem_map.mpr ⟨m, List.mem_reverse.mp member, named⟩)
    have found : (before ++ (name, w) :: after).reverse.find? (fun m => some m.1 == some name) = some (name, w) := by
      rw [List.reverse_append, List.reverse_cons, List.find?_append, List.find?_append, skipped]
      simp
    rw [member?, Json.Tree.lastMember?, found, Option.map_some]

theorem Refuses.errorCode_eq (refuses : Refuses v code) : errorCode v = code := by
  obtain ⟨has, small, _⟩ := refuses
  simp only [errorCode, member?_eq_some_iff.mpr has, small, if_true]

theorem Refuses.errorCode_ne (refuses : Refuses v code) : errorCode v ≠ 0 := by
  rw [refuses.errorCode_eq]
  exact refuses.2.2

/-- The code of an answer is the one by which it refuses. -/
theorem errorCode_eq_iff (other : code ≠ 0) : errorCode v = code ↔ Refuses v code := by
  constructor
  · intro read
    unfold errorCode at read
    split at read
    · rename_i n found
      split at read
      · rename_i small
        subst read
        exact ⟨member?_eq_some_iff.mp found, small, other⟩
      · exact absurd read.symm other
    · exact absurd read.symm other
  · exact Refuses.errorCode_eq

theorem errorCode_eq_zero_iff : errorCode v = 0 ↔ ∀ code, ¬ Refuses v code := by
  constructor
  · intro none code refuses
    exact refuses.2.2 (refuses.errorCode_eq.symm.trans none)
  · intro none
    by_contra other
    exact none _ ((errorCode_eq_iff other).mp rfl)

theorem errorMessage_eq_iff : errorMessage v = message ↔ Tells v message := by
  cases found : member? "errmsg" v with
  | none =>
    have absent (s : String) : ¬ HasMember v "errmsg" (.string s) := by
      rw [← member?_eq_some_iff, found]
      exact nofun
    simp [errorMessage, found, Tells, absent, eq_comm]
  | some w =>
    have only {u : Value} : HasMember v "errmsg" u ↔ w = u := by
      rw [← member?_eq_some_iff, found, Option.some.injEq]
    cases w <;> simp [errorMessage, found, Tells, only, Json.Tree.string?, eq_comm]

end Members

section Answers

/-- The value that the body of an answer holds, if it can be read. -/
def Answer.value? (answer : Answer) : Option Value :=
  ((Document.ofBytes? answer.body).bind (Document.value? Json.depthLimit)).map Json.Value.distinct

variable {path : String} {answer : Answer} {v : Value} {code : Int} {message : String}

theorem answerValue_of_failed (failed : Http.isSuccess answer.status = false) :
    answerValue path (some answer) =
      .error (.transport (some s!"{path} returned {Http.statusText answer.status}")) := by
  simp only [answerValue, Answer.document, failed, Bool.not_false, if_true]
  rfl

theorem answerValue_of_success (success : Http.isSuccess answer.status = true) :
    answerValue path (some answer) = match answer.value? with
      | none => .error (.transport none)
      | some v => .ok v := by
  simp only [answerValue, Answer.document, success, Bool.not_true, Bool.false_eq_true, if_false, Answer.value?]
  cases Document.ofBytes? answer.body with
  | none => rfl
  | some d =>
    simp only [bind, Except.bind, Option.bind_some]
    cases d.value? Json.depthLimit <;> rfl

/-- The codes by which the platform rejects an access token. -/
def rejections : List Int := [40001, 40014, 42001]

theorem refusal_of_rejection (refuses : Refuses v code) (tells : Tells v message) (rejected : code ∈ rejections) :
    refusal v = .platformApi code ("access token rejected - " ++ message) := by
  have listed : Error.tokenInvalidCodes.contains code = true := by
    simpa [Error.tokenInvalidCodes, rejections] using rejected
  rw [refusal, refuses.errorCode_eq, errorMessage_eq_iff.mpr tells]
  simp only [listed, if_true]
  rfl

theorem refusal_of_other (refuses : Refuses v code) (tells : Tells v message) (other : code ∉ rejections) :
    refusal v = .platformApi code
      (if code = 48001 then "API not authorised for this account - " ++ message else message) := by
  have unlisted : Error.tokenInvalidCodes.contains code = false := by
    simpa [Error.tokenInvalidCodes, rejections] using other
  rw [refusal, refuses.errorCode_eq, errorMessage_eq_iff.mpr tells]
  simp only [unlisted, Bool.false_eq_true, if_false]
  rfl

/-- A refusal rejects the token by its code, whatever its message. -/
theorem isTokenInvalid_refusal (refuses : Refuses v code) :
    (refusal v).isTokenInvalid = decide (code ∈ rejections) := by
  rw [refusal, refuses.errorCode_eq, Error.isTokenInvalid]
  simp [Error.tokenInvalidCodes, rejections]

end Answers

section Outcomes

variable {σ : Type} (service : Service σ) (tenant : Credentials)

/-- What becomes of a call to the platform, and of the tokens, when the answer to its request is there. -/
inductive Settles (path : String) (s : Token.Schedule σ) :
    Option Answer → Token.Schedule σ × Except Error Value → Prop
  | unanswered : Settles path s none (s, .error (.transport none))
  | failed {answer : Answer} : Http.isSuccess answer.status = false →
      Settles path s (some answer) (s, .error (.transport (some s!"{path} returned {Http.statusText answer.status}")))
  | unread {answer : Answer} : Http.isSuccess answer.status = true → answer.value? = none →
      Settles path s (some answer) (s, .error (.transport none))
  | accepted {answer : Answer} {v : Value} : Http.isSuccess answer.status = true → answer.value? = some v →
      (∀ code, ¬ Refuses v code) → Settles path s (some answer) (s, .ok v)
  | refused {answer : Answer} {v : Value} {code : Int} {message : String} : Http.isSuccess answer.status = true →
      answer.value? = some v → Refuses v code → Tells v message → code ∉ rejections →
      Settles path s (some answer) (s, .error (.platformApi code
        (if code = 48001 then "API not authorised for this account - " ++ message else message)))
  | replaced {answer : Answer} {v : Value} {code : Int} {message token : String} {after : Token.Schedule σ} :
      Http.isSuccess answer.status = true → answer.value? = some v → Refuses v code → Tells v message →
      code ∈ rejections → s.replaceToken (issuer service) tenant = (after, .ok token) →
      Settles path s (some answer) (after, .error (.platformApi code ("access token rejected - " ++ message)))
  | notReplaced {answer : Answer} {v : Value} {code : Int} {e : Error} {after : Token.Schedule σ} :
      Http.isSuccess answer.status = true → answer.value? = some v → Refuses v code → code ∈ rejections →
      s.replaceToken (issuer service) tenant = (after, .error e) → Settles path s (some answer) (after, .error e)

variable {service tenant} {path : String} {s : Token.Schedule σ} {answer : Option Answer}
  {r : Token.Schedule σ × Except Error Value}

/-- A code that refuses settles the call, unless it is one of those that reject the token. -/
theorem verdict_of_refuses {a : Answer} {v : Value} {code : Int} (success : Http.isSuccess a.status = true)
    (read : a.value? = some v) (refuses : Refuses v code) :
    verdict path (some a) = if code ∈ rejections then .rejected v else .settled (.error (refusal v)) := by
  simp only [verdict, answerValue_of_success success, read, if_neg refuses.errorCode_ne, isTokenInvalid_refusal refuses,
    decide_eq_true_eq]

theorem settle_of_settles (settles : Settles service tenant path s answer r) :
    settle service tenant s (verdict path answer) = r := by
  cases settles with
  | unanswered => rfl
  | failed failed => simp only [verdict, answerValue_of_failed failed, settle]
  | unread success unread => simp only [verdict, answerValue_of_success success, unread, settle]
  | accepted success read none =>
    simp only [verdict, answerValue_of_success success, read, errorCode_eq_zero_iff.mpr none, if_true, settle]
  | refused success read refuses tells other =>
    rw [verdict_of_refuses success read refuses, if_neg other, settle, refusal_of_other refuses tells other]
  | replaced success read refuses tells rejected got =>
    rw [verdict_of_refuses success read refuses, if_pos rejected, settle, got,
      refusal_of_rejection refuses tells rejected]
    rfl
  | notReplaced success read refuses rejected got =>
    rw [verdict_of_refuses success read refuses, if_pos rejected, settle, got]
    rfl

/-- Every answer settles a call in some way. -/
theorem exists_settles (service : Service σ) (tenant : Credentials) (path : String) (s : Token.Schedule σ)
    (answer : Option Answer) : ∃ r, Settles service tenant path s answer r := by
  cases answer with
  | none => exact ⟨_, .unanswered⟩
  | some answer =>
    cases success : Http.isSuccess answer.status with
    | false => exact ⟨_, .failed success⟩
    | true =>
      cases read : answer.value? with
      | none => exact ⟨_, .unread success read⟩
      | some v =>
        have tells : Tells v (errorMessage v) := errorMessage_eq_iff.mp rfl
        by_cases none : errorCode v = 0
        · exact ⟨_, .accepted success read (errorCode_eq_zero_iff.mp none)⟩
        · have refuses : Refuses v (errorCode v) := (errorCode_eq_iff none).mp rfl
          by_cases rejected : errorCode v ∈ rejections
          · rcases got : s.replaceToken (issuer service) tenant with ⟨after, e | token⟩
            · exact ⟨_, .notReplaced success read refuses rejected got⟩
            · exact ⟨_, .replaced success read refuses tells rejected got⟩
          · exact ⟨_, .refused success read refuses tells rejected⟩

/-- The answer alone decides how a call ends and whether the token is replaced. -/
theorem settles_iff :
    Settles service tenant path s answer r ↔ settle service tenant s (verdict path answer) = r := by
  constructor
  · exact settle_of_settles
  · rintro rfl
    obtain ⟨r, settles⟩ := exists_settles service tenant path s answer
    rw [settle_of_settles settles]
    exact settles

/-- The platform has rejected the token of a call. -/
def Rejects (answer : Option Answer) : Prop :=
  ∃ a v code, answer = some a ∧ Http.isSuccess a.status = true ∧ a.value? = some v ∧ Refuses v code ∧ code ∈ rejections

theorem rejects_iff {a : Answer} {v : Value} (success : Http.isSuccess a.status = true) (read : a.value? = some v) :
    Rejects (some a) ↔ errorCode v ∈ rejections := by
  constructor
  · rintro ⟨_, _, code, ⟨⟩, _, again, refuses, rejected⟩
    obtain rfl := Option.some.inj (read.symm.trans again)
    rw [refuses.errorCode_eq]
    exact rejected
  · intro rejected
    have other : errorCode v ≠ 0 := by
      intro zero
      rw [zero] at rejected
      exact absurd rejected (by decide)
    exact ⟨a, v, _, rfl, success, read, (errorCode_eq_iff other).mp rfl, rejected⟩

/-- The tokens change if the one that was sent is rejected, and only then. -/
theorem Settles.eq_or_rejects (settles : Settles service tenant path s answer r) :
    (¬ Rejects answer ∧ r.1 = s) ∨ (Rejects answer ∧ r.1 = (s.replaceToken (issuer service) tenant).1) := by
  cases settles with
  | unanswered =>
    refine .inl ⟨?_, rfl⟩
    rintro ⟨_, _, _, absent, _⟩
    cases absent
  | failed failed =>
    refine .inl ⟨?_, rfl⟩
    rintro ⟨_, _, _, ⟨⟩, success, _⟩
    rw [failed] at success
    cases success
  | unread _ unread =>
    refine .inl ⟨?_, rfl⟩
    rintro ⟨_, _, _, ⟨⟩, _, read, _⟩
    rw [unread] at read
    cases read
  | accepted success read none =>
    refine .inl ⟨?_, rfl⟩
    rw [rejects_iff success read, errorCode_eq_zero_iff.mpr none]
    decide
  | refused success read refuses _ other =>
    refine .inl ⟨?_, rfl⟩
    rw [rejects_iff success read, refuses.errorCode_eq]
    exact other
  | replaced success read refuses _ rejected got =>
    right
    exact ⟨⟨_, _, _, rfl, success, read, refuses, rejected⟩, by rw [got]⟩
  | notReplaced success read refuses rejected got =>
    right
    exact ⟨⟨_, _, _, rfl, success, read, refuses, rejected⟩, by rw [got]⟩

/-- What an answer leaves of the tokens: all of them, unless it rejects the one that was sent. Then that is replaced,
once, so that none is left but one stored since. -/
structure Leaves (service : Service σ) (tenant : Credentials) (s : Token.Schedule σ) (answer : Option Answer)
    (t : Token.Schedule σ) : Prop where
  kept : ¬ Rejects answer → t = s
  replaced : Rejects answer → t = (s.replaceToken (issuer service) tenant).1
  new : Rejects answer → ∀ entry, t.store.entries.get? tenant.accessTokenKey = some entry →
    Token.Schedule.IsNew s.now entry
  /-- If nobody else is at work, it is known what is left. -/
  alone : Rejects answer → s.store.live? s.now tenant.lockKey = none → Token.Schedule.IsQuiet s.tasks s.now →
    t.store.entries.get? tenant.accessTokenKey =
      (issued tenant (service (tokenRequest tenant) s.issuer).1).toOption.map fun token =>
        ⟨token.value, KeyValue.expiry s.now (min token.lifetime Token.maxLifetime)⟩

/-- However a call is settled, it leaves the tokens alone unless its own was rejected. -/
theorem Settles.leaves (settles : Settles service tenant path s answer r) : Leaves service tenant s answer r.1 := by
  rcases settles.eq_or_rejects with ⟨accepted, same⟩ | ⟨rejects, replaced⟩
  · exact ⟨fun _ => same, fun rejects => absurd rejects accepted, fun rejects => absurd rejects accepted,
      fun rejects => absurd rejects accepted⟩
  · refine ⟨fun accepted => absurd rejects accepted, fun _ => replaced, fun _ entry found => ?_, fun _ free quiet => ?_⟩
    · rw [replaced] at found
      exact Token.Schedule.entry_of_replaceToken found
    · rw [replaced, Token.Schedule.replaceToken_of_quiet (issuer service) free quiet, Token.renewed_token]
      simp only [issuer, Nat.add_zero]
      cases issued tenant (service (tokenRequest tenant) s.issuer).1 with
      | error e => exact Table.get?_erase_self ..
      | ok token => rfl

/-- What a call to the platform comes to. It ends with what the call for its token ends with, if that fails, or else
with what the answer to its request settles. It sends no other request, and the answer is all that decides what is left
of the tokens. -/
theorem make_eq_iff_settles (service : Service σ) (tenant : Credentials) (p : Post) :
    (∀ (s t : Token.Schedule σ) (outcome : Except Error Value), p.make service tenant s = (t, outcome) ↔
      (∃ e, s.token (issuer service) tenant = (t, .error e) ∧ outcome = .error e) ∨
      ∃ after token answer platform, s.token (issuer service) tenant = (after, .ok token) ∧
        service (apiRequest p.path token p.body) after.issuer = (answer, platform) ∧
        Settles service tenant p.path { after with issuer := platform } answer (t, outcome)) ∧
    (∀ s : Token.Schedule (σ × List Request),
      let sent := posted (p.make (recorded service) tenant s).1.issuer.2
      let token := (s.token (issuer (recorded service)) tenant).2
      (∀ e, token = .error e → sent = posted s.issuer.2) ∧
      ∀ text, token = .ok text → sent = posted s.issuer.2 ++ [apiRequest p.path text p.body]) ∧
    ∀ (s t : Token.Schedule σ) (answer : Option Answer) (outcome : Except Error Value),
      Settles service tenant p.path s answer (t, outcome) → Leaves service tenant s answer t := by
  refine ⟨fun s t outcome => ?outcome, fun s => ?sent, fun s t answer outcome settles => settles.leaves⟩
  case outcome =>
    rcases got : s.token (issuer service) tenant with ⟨after, e | token⟩
    · have make : p.make service tenant s = (after, .error e) := by simp only [Post.make, post, got]
      rw [make]
      constructor
      · rintro ⟨⟩
        exact .inl ⟨e, rfl, rfl⟩
      · rintro (⟨_, ⟨⟩, rfl⟩ | ⟨_, _, _, _, ⟨⟩, _⟩)
        rfl
    · rw [make_of_token service tenant p s got]
      rcases asked : service (apiRequest p.path token p.body) after.issuer with ⟨answer, platform⟩
      simp only [← settles_iff]
      constructor
      · intro settles
        exact .inr ⟨after, token, answer, platform, rfl, asked, settles⟩
      · rintro (⟨_, ⟨⟩, _⟩ | ⟨_, _, _, _, ⟨⟩, asked', settles⟩)
        obtain ⟨rfl, rfl⟩ := Prod.mk.inj (asked.symm.trans asked')
        exact settles
  case sent =>
    have sent := posted_make service tenant p s
    constructor
    · intro e refused
      rw [sent, refused]
      exact List.append_nil _
    · intro text granted
      rw [sent, granted]
      rfl

end Outcomes

namespace Forgetful

def tenant : Credentials := ⟨"wx1", "", "", "", ""⟩

def grant : Answer := ⟨200, Bytes.ofString "\x7b\"access_token\":\"fresh\",\"expires_in\":7200\x7d"⟩

def rejection : Answer := ⟨200, Bytes.ofString "\x7b\"errcode\":40001,\"errmsg\":\"unknown\"\x7d"⟩

def service : Service Unit := fun request state =>
  match request.method with
  | .get => (some grant, state)
  | _ => (some rejection, state)

def schedule {σ : Type} (state : σ) : Token.Schedule σ :=
  ⟨0, KeyValue.empty.set 0 tenant.accessTokenKey "stale" (some 7200000), state, []⟩

def posting : Post := .typing "user"

theorem token_eq {σ : Type} (service : Service σ) (state : σ) :
    (schedule state).token (issuer service) tenant = (schedule state, .ok "stale") :=
  Token.Schedule.token_of_stored _ rfl rfl nofun

end Forgetful

/-- A platform that has forgotten the token of a tenant rejects it, and gives another one. The request is not sent
again. -/
theorem make_eq_iff_settles_of_forgotten :
    ∃ t, Forgetful.posting.make Forgetful.service Forgetful.tenant (Forgetful.schedule ()) =
        (t, .error (.platformApi 40001 "access token rejected - unknown")) ∧
      t.store.entries.get? Forgetful.tenant.accessTokenKey = some ⟨"fresh", some 7200000⟩ ∧
      posted (Forgetful.posting.make (recorded Forgetful.service) Forgetful.tenant
        (Forgetful.schedule ((), []))).1.issuer.2 = [apiRequest typingPath "stale" (typingBody "user")] := by
  obtain ⟨outcome, sent, leaves⟩ := make_eq_iff_settles Forgetful.service Forgetful.tenant Forgetful.posting
  let v : Value := .object [("errcode", .number (.integer 40001)), ("errmsg", .string "unknown")]
  have refuses : Refuses v 40001 := ⟨⟨[], _, rfl, by simp⟩, rfl, by simp⟩
  have tells : Tells v "unknown" := .inl ⟨[_], [], rfl, by simp⟩
  have read : Forgetful.rejection.value? = some v := rfl
  have rejected : (40001 : Int) ∈ rejections := by simp [rejections]
  have granted : issued Forgetful.tenant (some Forgetful.grant) = .ok ⟨"fresh", 7200000⟩ := rfl
  obtain ⟨t, got⟩ : ∃ t, (Forgetful.schedule ()).replaceToken (issuer Forgetful.service) Forgetful.tenant =
      (t, .ok "fresh") := ⟨_, Token.Schedule.replaceToken_of_quiet _ rfl nofun⟩
  have settles : Settles Forgetful.service Forgetful.tenant typingPath (Forgetful.schedule ())
      (some Forgetful.rejection) (t, .error (.platformApi 40001 "access token rejected - unknown")) :=
    .replaced rfl read refuses tells rejected got
  have ended := (outcome (Forgetful.schedule ()) _ _).mpr (.inr ⟨_, _, Forgetful.rejection, (),
    Forgetful.token_eq _ _, rfl, settles⟩)
  refine ⟨t, ended, ?_, ?_⟩
  · have asked : Forgetful.service (tokenRequest Forgetful.tenant) () = (some Forgetful.grant, ()) := rfl
    rw [(leaves _ _ _ _ settles).alone ⟨_, v, _, rfl, rfl, read, refuses, rejected⟩ rfl nofun, asked, granted]
    simp [Except.toOption, KeyValue.expiry, KeyValue.horizon, Token.maxLifetime, Forgetful.schedule]
  · exact (sent (Forgetful.schedule ((), []))).2 "stale" (by rw [Forgetful.token_eq])

end ReplyGateway.Platform
