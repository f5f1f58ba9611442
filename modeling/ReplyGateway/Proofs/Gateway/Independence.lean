import Mathlib
import ReplyGateway.Proofs.Gateway.Admission
import ReplyGateway.Proofs.Reply.Time

namespace ReplyGateway

/-- Results of answering that differ at most in the time that a reply tells. -/
def SameButTime (time time' : Int) (result result' : Except Error Outcome) : Prop :=
  result = result' ∨ ∃ format before after,
    result = .ok (.reply (before ++ Reply.timeMark format ++ toString time ++ after) format) ∧
      result' = .ok (.reply (before ++ Reply.timeMark format ++ toString time' ++ after) format)

/-- Errors that answering a request for a tenant may end in: none of them comes from the platform or a token. -/
def Error.IsOfRequest (tenantId : String) (e : Error) : Prop :=
  e = .configurationMissing tenantId ∨ e = .authentication ∨ (∃ reason, e = .format reason) ∨
    (∃ fault, e = .decryption fault) ∨ ∃ fault, e = .store fault

theorem Webhook.Query.plaintext_eq_error {q : Query} {tenant : Credentials} {format : Format} {body : Bytes}
    {e : Error} (failed : q.plaintext tenant format body = .error e) :
    e = .authentication ∨ (∃ reason, e = .format reason) ∨ ∃ fault, e = .decryption fault := by
  unfold plaintext at failed
  split at failed
  · split at failed
    · cases failed
      exact .inr (.inl ⟨_, rfl⟩)
    · split at failed
      · rename_i envelope _ _
        cases decrypted : Cipher.decrypt tenant.encodingKey envelope.encrypted with
        | ok content => rw [decrypted] at failed; cases failed
        | error fault => rw [decrypted] at failed; cases failed; exact .inr (.inr ⟨fault, rfl⟩)
      · cases failed
        exact .inl rfl
  · cases failed

/-- Reading the message of a request ends in no error of the platform. -/
theorem Webhook.Query.message_eq_error {q : Query} {tenant : Credentials} {format : Format} {body : Bytes}
    {e : Error} (failed : q.message tenant format body = .error e) :
    e = .authentication ∨ (∃ reason, e = .format reason) ∨ ∃ fault, e = .decryption fault := by
  unfold message at failed
  split at failed
  · cases plain : q.plaintext tenant format body with
    | error e' =>
      rw [plain] at failed
      cases failed
      exact plaintext_eq_error plain
    | ok content =>
      rw [plain] at failed
      change (Inbound.decodeMessage format content).mapError .ofBodyFault = .error e at failed
      cases decoded : Inbound.decodeMessage format content with
      | ok m => rw [decoded] at failed; cases failed
      | error fault => rw [decoded] at failed; cases failed; exact .inr (.inl ⟨_, rfl⟩)
  · cases failed
    exact .inl rfl

namespace Gateway

variable {σ τ υ : Type}

/-- Gateways that have the same configuration and remember the same credentials. Their tokens and platforms may
differ. -/
structure Alike (g : Gateway σ) (g' : Gateway τ) : Prop where
  configuration : g.configuration = g'.configuration
  handlers : g.handlers = g'.handlers
  clients : g.clients = g'.clients

variable {g : Gateway σ} {g' : Gateway τ}

theorem Alike.symm (alike : Alike g g') : Alike g' g :=
  ⟨alike.configuration.symm, alike.handlers.symm, alike.clients.symm⟩

theorem Alike.trans {g'' : Gateway υ} (first : Alike g g') (second : Alike g' g'') : Alike g g'' :=
  ⟨first.configuration.trans second.configuration, first.handlers.trans second.handlers,
    first.clients.trans second.clients⟩

theorem Alike.handler_eq (alike : Alike g g') (tenantId : String) :
    (g.handler tenantId).2 = (g'.handler tenantId).2 := by
  simp only [handler, alike.configuration, alike.handlers]

theorem Alike.handler (alike : Alike g g') (tenantId : String) :
    Alike (g.handler tenantId).1 (g'.handler tenantId).1 where
  configuration := alike.configuration
  handlers := by simp only [Gateway.handler, alike.configuration, alike.handlers]
  clients := alike.clients

theorem Alike.client (alike : Alike g g') (tenantId : String) :
    Alike (g.client tenantId).1 (g'.client tenantId).1 where
  configuration := alike.configuration
  handlers := alike.handlers
  clients := by simp only [Gateway.client, alike.configuration, alike.clients]

/-- Pushing replies changes nothing but the tokens, and what is remembered for calls to the platform. -/
theorem push_alike (service : Platform.Service σ) (tenantId toUser : String) (showsTyping : Bool)
    (replies : List Reply) (g : Gateway σ) :
    Alike (g.push service tenantId toUser showsTyping replies)
      (if replies.isEmpty then g else (g.client tenantId).1) := by
  unfold push
  split
  · exact ⟨rfl, rfl, rfl⟩
  · rcases g.client tenantId with ⟨g', e | tenant⟩
    · exact ⟨rfl, rfl, rfl⟩
    · exact ⟨rfl, rfl, rfl⟩

theorem Alike.push (alike : Alike g g') (service : Platform.Service σ) (service' : Platform.Service τ)
    (tenantId toUser : String) (showsTyping : Bool) (replies : List Reply) :
    Alike (g.push service tenantId toUser showsTyping replies)
      (g'.push service' tenantId toUser showsTyping replies) := by
  have between : Alike (if replies.isEmpty then g else (g.client tenantId).1)
      (if replies.isEmpty then g' else (g'.client tenantId).1) := by
    split
    · exact alike
    · exact alike.client tenantId
  exact (push_alike service ..).trans (between.trans (push_alike service' ..).symm)

/-- A reply inside the answer differs in its time at most. -/
theorem inlineOutcome_sameButTime (format : Format) (time time' : Int) (m : Inbound.Message) (inline : Option Reply) :
    SameButTime time time' (.ok (inlineOutcome format time m inline)) (.ok (inlineOutcome format time' m inline)) := by
  cases inline with
  | none => exact .inl rfl
  | some r =>
    by_cases passive : r.kind.isPassive = true
    · obtain ⟨before, after, text⟩ := r.exists_passiveText?_eq format m.fromUser m.toUser passive
      refine .inr ⟨format, before, after, ?_, ?_⟩
      · simp only [inlineOutcome, Option.bind_some, text]
      · simp only [inlineOutcome, Option.bind_some, text]
    · have none (time : Int) : r.passiveText? format ⟨m.fromUser, m.toUser, time⟩ = none := by
        rw [← Option.not_isSome_iff_eq_none, r.passiveText?_isSome]
        exact passive
      exact .inl (by simp only [inlineOutcome, Option.bind_some, none])

/-- The steps from a request to the replies are the same with any tokens and any platform. -/
theorem Alike.steps_eq (alike : Alike g g') (draw : Nat) (tenantId : String) (q : Webhook.Query)
    (contentType : Option String) (body : Bytes) :
    g.steps draw tenantId q contentType body = g'.steps draw tenantId q contentType body := by
  simp only [steps, alike.handler_eq, alike.configuration]

/-- Whatever the platforms do with what is pushed, the answers are alike, and so are the gateways after them. -/
theorem Alike.conclude (alike : Alike g g') (service : Platform.Service σ) (service' : Platform.Service τ)
    (time time' : Int) (tenantId : String) (format : Format)
    (came : Except Error (Option (Inbound.Message × List Reply))) :
    let concluded := g.conclude service time tenantId format came
    let concluded' := g'.conclude service' time' tenantId format came
    SameButTime time time' concluded.2 concluded'.2 ∧ Alike concluded.1 concluded'.1 := by
  match came with
  | .error e => exact ⟨.inl rfl, alike⟩
  | .ok none => exact ⟨.inl rfl, alike⟩
  | .ok (some (m, replies)) => exact ⟨inlineOutcome_sameButTime .., alike.push service service' ..⟩

/-- The steps to the replies end in no error of the platform. -/
theorem isOfRequest_of_steps {draw : Nat} {tenantId : String} {q : Webhook.Query} {contentType : Option String}
    {body : Bytes} {g : Gateway σ} {e : Error}
    (failed : (g.steps draw tenantId q contentType body).result = .error e) : e.IsOfRequest tenantId := by
  rcases g.steps_cases draw tenantId q contentType body with ⟨e', missing, steps⟩ | ⟨tenant, found, rest⟩
  · rw [steps] at failed
    obtain rfl := Except.error.inj failed
    rcases handler_eq_error missing with rfl | ⟨fault, rfl⟩
    · exact .inl rfl
    · exact .inr (.inr (.inr (.inr ⟨fault, rfl⟩)))
  · rcases rest with ⟨e', refused, steps⟩ | ⟨_, steps⟩ | ⟨m, _, steps⟩
    · rw [steps] at failed
      obtain rfl := Except.error.inj failed
      rcases Webhook.Query.message_eq_error refused with same | malformed | ⟨fault, same⟩
      · exact .inr (.inl same)
      · exact .inr (.inr (.inl malformed))
      · exact .inr (.inr (.inr (.inl ⟨fault, same⟩)))
    · rw [steps] at failed
      cases failed
    · rw [steps] at failed
      cases found : Resolution.replies g.configuration tenantId m draw with
      | ok replies => rw [found] at failed; cases failed
      | error e' =>
        rw [found] at failed
        obtain rfl := Except.error.inj failed
        exact .inr (.inr (.inr (.inr (Resolution.replies_eq_error found))))

/-- The answer to a request is the same with any two platforms and any tokens, but for the time that it tells, and
later requests are answered alike again. If it is an error, then one of the request, the tenant or the store. -/
theorem handle_independent (service : Platform.Service σ) (service' : Platform.Service τ) (draw : Nat)
    (time time' : Int) (tenantId : String) (q : Webhook.Query) (contentType : Option String) (body : Bytes)
    (alike : Alike g g') :
    let handled := g.handle service draw time tenantId q contentType body
    let handled' := g'.handle service' draw time' tenantId q contentType body
    SameButTime time time' handled.2 handled'.2 ∧ Alike handled.1 handled'.1 ∧
      ∀ e, handled.2 = .error e → e.IsOfRequest tenantId := by
  intro handled handled'
  have steps := alike.steps_eq draw tenantId q contentType body
  have concluded := (alike.handler tenantId).conclude service service' time time' tenantId
    (.ofContentType contentType) (g.steps draw tenantId q contentType body).result
  refine ⟨?_, ?_, fun e failed => ?_⟩
  · simpa only [handled, handled', handle_eq_of_steps, ← steps] using concluded.1
  · simpa only [handled, handled', handle_eq_of_steps, ← steps] using concluded.2
  · rw [show handled = _ from handle_eq_of_steps ..] at failed
    cases came : (g.steps draw tenantId q contentType body).result with
    | error e' =>
      rw [came] at failed
      obtain rfl := Except.error.inj failed
      exact isOfRequest_of_steps came
    | ok found =>
      rw [came] at failed
      cases found with
      | none => cases failed
      | some pair => cases failed

/-- One platform cannot be reached and the other one fails, and of two replies to a message the second is pushed. -/
theorem handle_independent_of_failing :
    let tenant : Credentials := ⟨"wx1", "secret", "", "", ""⟩
    let replies := "\x7b\"reply_all\":true,\"msg_list\":[\x7b\"msg_type\":\"text\",\"content\":\"hi\"\x7d," ++
      "\x7b\"msg_type\":\"wxcard\",\"card_id\":\"c\"\x7d]\x7d"
    let rows : List Store.RuleRow := [⟨1, "wx1", .message, "", replies, "", "", "", "2024-01-01T00:00:00Z"⟩]
    let flags := Table.empty.put ("wx1", Category.message) true
    let c : Configuration := ⟨⟨.current, .empty, flags, ⟨rows, 1, by decide, by decide⟩⟩, some tenant⟩
    let failing : Platform.Service Nat := fun _ count => (some ⟨500, []⟩, count + 1)
    let g : Gateway Unit := .start c 2 2 ()
    let g' : Gateway Nat := .start c 2 2 7
    let q : Webhook.Query := ⟨Signature.compute ["secret", "1", "n"], "1", "n", none, none, none⟩
    let body := Bytes.ofString "<xml><FromUserName>u</FromUserName><MsgType>text</MsgType></xml>"
    let m : Inbound.Message := ⟨"", "u", 0, .text "" 0⟩
    q.message tenant .xml body = .ok (some m) ∧
      Resolution.replies c "wx1" m 0 = .ok [.text "hi", .card "c"] ∧ Alike g g' ∧
      SameButTime 100 200 (g.handle Platform.unreachable 0 100 "wx1" q (some "text/xml") body).2
        (g'.handle failing 0 200 "wx1" q (some "text/xml") body).2 := by
  intro tenant replies rows flags c failing g g' q body m
  have signed : q.isSigned tenant = true := Signature.verify_iff.2 rfl
  have read : q.message tenant .xml body = .ok (some m) := by
    rw [Webhook.Query.message, if_pos signed]
    decide +kernel
  have alike : Alike g g' := ⟨rfl, rfl, rfl⟩
  exact ⟨read, by decide +kernel, alike,
    (handle_independent Platform.unreachable failing 0 100 200 "wx1" q (some "text/xml") body alike).1⟩

end Gateway
end ReplyGateway
