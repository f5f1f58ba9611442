import Mathlib
import ReplyGateway.Gateway
import ReplyGateway.Proofs.Resolution.Failure

namespace ReplyGateway

/-- A step that a gateway takes from a request to the replies. -/
inductive Step
  /-- A signature was compared with the one over the parts. -/
  | checked (signature : String) (parts : List String) (passed : Bool)
  | decrypted (key ciphertext : String)
  /-- Flags and rules were read for a message. -/
  | resolved (m : Inbound.Message)
  deriving DecidableEq

/-- What is come to, and the steps to it in their order. -/
structure Traced (α : Type) where
  result : Except Error α
  steps : List Step

namespace Traced

/-- What comes without a step. -/
def of {α : Type} (result : Except Error α) : Traced α := ⟨result, []⟩

/-- Steps follow each other up to the first error. -/
instance : Monad Traced where
  pure a := of (.ok a)
  bind x next :=
    match x.result with
    | .error e => ⟨.error e, x.steps⟩
    | .ok a => ⟨(next a).result, x.steps ++ (next a).steps⟩

theorem bind_of_ok {α β : Type} {x : Traced α} {a : α} (came : x.result = .ok a) (next : α → Traced β) :
    x >>= next = ⟨(next a).result, x.steps ++ (next a).steps⟩ := by simp [bind, came]

theorem bind_of_error {α β : Type} {x : Traced α} {e : Error} (failed : x.result = .error e) (next : α → Traced β) :
    x >>= next = ⟨.error e, x.steps⟩ := by simp [bind, failed]

def check (signature : String) (parts : List String) : Traced Bool :=
  ⟨.ok (Signature.verify signature parts), [.checked signature parts (Signature.verify signature parts)]⟩

def decrypt (key ciphertext : String) : Traced Bytes :=
  ⟨(Cipher.decrypt key ciphertext).mapError .decryption, [.decrypted key ciphertext]⟩

def resolve (c : Configuration) (tenantId : String) (m : Inbound.Message) (draw : Nat) : Traced (List Reply) :=
  ⟨Resolution.replies c tenantId m draw, [.resolved m]⟩

end Traced

namespace Webhook.Query

/-- The steps to the body in plain text. -/
def plaintextSteps (q : Query) (tenant : Credentials) (format : Format) (body : Bytes) : Traced Bytes := do
  if q.isEncrypted then
    let envelope ← Traced.of ((Inbound.decodeEnvelope format body).mapError .ofBodyFault)
    let signature ← Traced.of (q.bodySignature.elim (.error .authentication) .ok)
    if ← Traced.check signature (q.signedParts tenant ++ [envelope.encrypted]) then
      Traced.decrypt tenant.encodingKey envelope.encrypted
    else Traced.of (.error .authentication)
  else return body

/-- The steps to the message in a request. -/
def messageSteps (q : Query) (tenant : Credentials) (format : Format) (body : Bytes) :
    Traced (Option Inbound.Message) := do
  if ← Traced.check q.signature (q.signedParts tenant) then
    let plain ← q.plaintextSteps tenant format body
    Traced.of ((Inbound.decodeMessage format plain).mapError .ofBodyFault)
  else Traced.of (.error .authentication)

/-- Whether an encrypted body holds a ciphertext over which its signature is right. -/
structure Opens (q : Query) (tenant : Credentials) (format : Format) (body : Bytes)
    (ciphertext signature : String) : Prop where
  encryption : q.encryption = some "aes"
  envelope : ∃ toUser, Inbound.decodeEnvelope format body = .ok ⟨toUser, ciphertext⟩
  given : q.bodySignature = some signature
  signed : signature = Signature.compute [tenant.token, q.timestamp, q.nonce, ciphertext]

theorem isEncrypted_iff {q : Query} : q.isEncrypted = true ↔ q.encryption = some "aes" := by simp [isEncrypted, aes]

/-- The body is taken as it is, or not opened, or its signature is wrong, or it is decrypted. -/
theorem plaintextSteps_cases (q : Query) (tenant : Credentials) (format : Format) (body : Bytes) :
    (q.encryption ≠ some "aes" ∧ q.plaintextSteps tenant format body = ⟨.ok body, []⟩) ∨
      (∃ e, q.plaintextSteps tenant format body = ⟨.error e, []⟩) ∨
      (∃ signature parts, q.plaintextSteps tenant format body =
        ⟨.error .authentication, [.checked signature parts false]⟩) ∨
      ∃ ciphertext signature, q.Opens tenant format body ciphertext signature ∧
        q.plaintextSteps tenant format body =
          ⟨(Cipher.decrypt tenant.encodingKey ciphertext).mapError .decryption,
            [.checked signature (q.signedParts tenant ++ [ciphertext]) true,
              .decrypted tenant.encodingKey ciphertext]⟩ := by
  unfold plaintextSteps
  by_cases encrypted : q.isEncrypted = true
  · rw [if_pos encrypted]
    cases opened : Inbound.decodeEnvelope format body with
    | error fault => exact .inr (.inl ⟨.ofBodyFault fault, rfl⟩)
    | ok envelope =>
      cases given : q.bodySignature with
      | none => exact .inr (.inl ⟨.authentication, rfl⟩)
      | some signature =>
        cases passed : Signature.verify signature (q.signedParts tenant ++ [envelope.encrypted]) with
        | false =>
          refine .inr (.inr (.inl ⟨signature, q.signedParts tenant ++ [envelope.encrypted], ?_⟩))
          simp [passed, Traced.check, Traced.of, bind, Except.mapError]
        | true =>
          refine .inr (.inr (.inr ⟨envelope.encrypted, signature, ⟨isEncrypted_iff.1 encrypted, ⟨_, opened⟩, given,
            Signature.verify_iff.1 passed⟩, ?_⟩))
          simp [passed, Traced.check, Traced.of, Traced.decrypt, bind, Except.mapError]
  · rw [if_neg encrypted]
    exact .inl ⟨fun same => encrypted (isEncrypted_iff.2 same), rfl⟩

/-- Telling the steps does not change what they come to. -/
theorem result_plaintextSteps (q : Query) (tenant : Credentials) (format : Format) (body : Bytes) :
    (q.plaintextSteps tenant format body).result = q.plaintext tenant format body := by
  unfold plaintextSteps plaintext
  by_cases encrypted : q.isEncrypted = true
  · rw [if_pos encrypted, if_pos encrypted]
    cases Inbound.decodeEnvelope format body with
    | error fault => rfl
    | ok envelope =>
      cases given : q.bodySignature with
      | none => simp [isBodySigned, given, Traced.of, bind, Except.mapError]
      | some signature =>
        cases passed : Signature.verify signature (q.signedParts tenant ++ [envelope.encrypted]) <;>
          simp [isBodySigned, given, passed, Traced.check, Traced.of, Traced.decrypt, bind, Except.mapError]
  · rw [if_neg encrypted, if_neg encrypted]
    rfl

/-- With a wrong signature the first check is the only step. -/
theorem messageSteps_of_unsigned {q : Query} {tenant : Credentials}
    (unsigned : q.signature ≠ Signature.compute (q.signedParts tenant)) (format : Format) (body : Bytes) :
    q.messageSteps tenant format body =
      ⟨.error .authentication, [.checked q.signature (q.signedParts tenant) false]⟩ := by
  have failed : Signature.verify q.signature (q.signedParts tenant) = false := by
    rw [Bool.eq_false_iff]
    exact fun passed => unsigned (Signature.verify_iff.1 passed)
  simp [messageSteps, Traced.check, Traced.of, bind, failed]

/-- After the first check come the steps to the body, and the message is read without one. -/
theorem messageSteps_of_signed {q : Query} {tenant : Credentials}
    (signed : q.signature = Signature.compute (q.signedParts tenant)) (format : Format) (body : Bytes) :
    q.messageSteps tenant format body =
      ⟨(q.plaintext tenant format body).bind fun plain =>
          (Inbound.decodeMessage format plain).mapError .ofBodyFault,
        .checked q.signature (q.signedParts tenant) true :: (q.plaintextSteps tenant format body).steps⟩ := by
  have passed : Signature.verify q.signature (q.signedParts tenant) = true := Signature.verify_iff.2 signed
  rw [← result_plaintextSteps]
  cases came : (q.plaintextSteps tenant format body).result <;>
    simp [messageSteps, Traced.check, Traced.of, bind, passed, came, Except.bind]

theorem result_messageSteps (q : Query) (tenant : Credentials) (format : Format) (body : Bytes) :
    (q.messageSteps tenant format body).result = q.message tenant format body := by
  by_cases signed : q.signature = Signature.compute (q.signedParts tenant)
  · have passed : q.isSigned tenant = true := Signature.verify_iff.2 signed
    rw [messageSteps_of_signed signed, message, if_pos passed]
    rfl
  · have failed : q.isSigned tenant = false := by
      rw [Bool.eq_false_iff]
      exact fun passed => signed (Signature.verify_iff.1 passed)
    rw [messageSteps_of_unsigned signed, message_of_unsigned failed]

/-- The steps that let a ciphertext through to the cipher. -/
def checks (q : Query) (tenant : Credentials) (ciphertext signature : String) : List Step :=
  [.checked q.signature [tenant.token, q.timestamp, q.nonce] true,
    .checked signature [tenant.token, q.timestamp, q.nonce, ciphertext] true]

/-- What is decrypted has passed both checks. -/
theorem messageSteps_of_decrypted {q : Query} {tenant : Credentials} {format : Format} {body : Bytes}
    {key ciphertext : String} (member : .decrypted key ciphertext ∈ (q.messageSteps tenant format body).steps) :
    q.signature = Signature.compute [tenant.token, q.timestamp, q.nonce] ∧ key = tenant.encodingKey ∧
      ∃ signature, q.Opens tenant format body ciphertext signature ∧
        (q.messageSteps tenant format body).steps =
          q.checks tenant ciphertext signature ++ [.decrypted key ciphertext] := by
  by_cases signed : q.signature = Signature.compute (q.signedParts tenant)
  · rw [messageSteps_of_signed signed] at member ⊢
    rcases q.plaintextSteps_cases tenant format body with
      ⟨_, steps⟩ | ⟨e, steps⟩ | ⟨signature, parts, steps⟩ | ⟨opened, signature, opens, steps⟩
    · simp [steps] at member
    · simp [steps] at member
    · simp [steps] at member
    · simp only [steps, List.mem_cons, reduceCtorEq, List.not_mem_nil, or_false, false_or,
        Step.decrypted.injEq] at member
      obtain ⟨rfl, rfl⟩ := member
      exact ⟨signed, rfl, signature, opens, by rw [steps]; rfl⟩
  · rw [messageSteps_of_unsigned signed] at member
    simp at member

/-- A message that was read was in a body that needs no decryption, or that was decrypted. -/
theorem messageSteps_of_message {q : Query} {tenant : Credentials} {format : Format} {body : Bytes}
    {m : Option Inbound.Message} (read : q.message tenant format body = .ok m) :
    q.signature = Signature.compute [tenant.token, q.timestamp, q.nonce] ∧
      (q.encryption ≠ some "aes" ∧
          (q.messageSteps tenant format body).steps =
            [.checked q.signature [tenant.token, q.timestamp, q.nonce] true] ∨
        ∃ ciphertext signature plain, q.Opens tenant format body ciphertext signature ∧
          Cipher.decrypt tenant.encodingKey ciphertext = .ok plain ∧
          (q.messageSteps tenant format body).steps =
            q.checks tenant ciphertext signature ++ [.decrypted tenant.encodingKey ciphertext]) := by
  rw [← result_messageSteps] at read
  by_cases signed : q.signature = Signature.compute (q.signedParts tenant)
  · refine ⟨signed, ?_⟩
    rw [messageSteps_of_signed signed] at read ⊢
    rw [← result_plaintextSteps] at read
    rcases q.plaintextSteps_cases tenant format body with
      ⟨plain, steps⟩ | ⟨e, steps⟩ | ⟨signature, parts, steps⟩ | ⟨ciphertext, signature, opens, steps⟩
    · exact .inl ⟨plain, by rw [steps]; rfl⟩
    · rw [steps] at read
      cases read
    · rw [steps] at read
      cases read
    · right
      cases decrypted : Cipher.decrypt tenant.encodingKey ciphertext with
      | error fault =>
        rw [steps, decrypted] at read
        cases read
      | ok plain => exact ⟨ciphertext, signature, plain, opens, decrypted, by rw [steps]; rfl⟩
  · rw [messageSteps_of_unsigned signed] at read
    cases read

end Webhook.Query

namespace Gateway

variable {σ : Type}

/-- The steps to the message in a request and to the replies to it. -/
def steps (draw : Nat) (tenantId : String) (q : Webhook.Query) (contentType : Option String) (body : Bytes)
    (g : Gateway σ) : Traced (Option (Inbound.Message × List Reply)) := do
  let tenant ← Traced.of (g.handler tenantId).2
  match ← q.messageSteps tenant (.ofContentType contentType) body with
  | none => return none
  | some m => return some (m, ← Traced.resolve g.configuration tenantId m draw)

/-- What a gateway makes of the steps: only when replies were found are they sent on their ways. -/
def conclude (service : Platform.Service σ) (time : Int) (tenantId : String) (format : Format) (g : Gateway σ) :
    Except Error (Option (Inbound.Message × List Reply)) → Gateway σ × Except Error Outcome
  | .error e => (g, .error e)
  | .ok none => (g, .ok .acknowledged)
  | .ok (some (m, replies)) =>
    let (g, outcome) := g.dispatch service tenantId format time m replies
    (g, .ok outcome)

/-- There is no tenant, or the steps to the message are all, or flags and rules are read after them. -/
theorem steps_cases (draw : Nat) (tenantId : String) (q : Webhook.Query) (contentType : Option String) (body : Bytes)
    (g : Gateway σ) :
    (∃ e, (g.handler tenantId).2 = .error e ∧ g.steps draw tenantId q contentType body = ⟨.error e, []⟩) ∨
      ∃ tenant, (g.handler tenantId).2 = .ok tenant ∧
        let format := Format.ofContentType contentType
        let before := (q.messageSteps tenant format body).steps
        (∃ e, q.message tenant format body = .error e ∧
            g.steps draw tenantId q contentType body = ⟨.error e, before⟩) ∨
          (q.message tenant format body = .ok none ∧
            g.steps draw tenantId q contentType body = ⟨.ok none, before⟩) ∨
          ∃ m, q.message tenant format body = .ok (some m) ∧
            g.steps draw tenantId q contentType body =
              ⟨(Resolution.replies g.configuration tenantId m draw).map fun replies => some (m, replies),
                before ++ [.resolved m]⟩ := by
  unfold steps
  cases found : (g.handler tenantId).2 with
  | error e => exact .inl ⟨e, rfl, rfl⟩
  | ok tenant =>
    refine .inr ⟨tenant, rfl, ?_⟩
    rw [Traced.bind_of_ok rfl]
    have result := q.result_messageSteps tenant (.ofContentType contentType) body
    cases read : q.message tenant (.ofContentType contentType) body with
    | error e =>
      rw [read] at result
      exact .inl ⟨e, read, by rw [Traced.bind_of_error result]; rfl⟩
    | ok m =>
      rw [read] at result
      rw [Traced.bind_of_ok result]
      cases m with
      | none => exact .inr (.inl ⟨read, by simp [pure, Traced.of]⟩)
      | some m =>
        refine .inr (.inr ⟨m, read, ?_⟩)
        cases replies : Resolution.replies g.configuration tenantId m draw <;>
          simp [Traced.resolve, replies, bind, pure, Traced.of, Except.map]

/-- Answering is taking the steps and concluding from what they come to. -/
theorem handle_eq_of_steps (service : Platform.Service σ) (draw : Nat) (time : Int) (tenantId : String)
    (q : Webhook.Query) (contentType : Option String) (body : Bytes) (g : Gateway σ) :
    g.handle service draw time tenantId q contentType body =
      (g.handler tenantId).1.conclude service time tenantId (.ofContentType contentType)
        (g.steps draw tenantId q contentType body).result := by
  rcases g.steps_cases draw tenantId q contentType body with ⟨e, found, steps⟩ | ⟨tenant, found, rest⟩
  · have pair : g.handler tenantId = ((g.handler tenantId).1, .error e) := Prod.ext rfl found
    rw [steps, handle, pair]
    rfl
  · have pair : g.handler tenantId = ((g.handler tenantId).1, .ok tenant) := Prod.ext rfl found
    have same : (g.handler tenantId).1.configuration = g.configuration := rfl
    rcases rest with ⟨e, read, steps⟩ | ⟨read, steps⟩ | ⟨m, read, steps⟩
    · rw [steps, handle, pair]
      simp only [read, conclude]
    · rw [steps, handle, pair]
      simp only [read, conclude]
    · rw [steps, handle, pair]
      simp only [read, same]
      cases Resolution.replies g.configuration tenantId m draw <;> rfl

theorem handler_eq_error {g : Gateway σ} {tenantId : String} {e : Error}
    (missing : (g.handler tenantId).2 = .error e) :
    e = .configurationMissing tenantId ∨ ∃ fault, e = .store fault := by
  have construction : g.configuration.credentials tenantId = .error e := by
    unfold handler Recency.fetch at missing
    cases cached : g.handlers.find? tenantId with
    | some tenant => rw [cached] at missing; cases missing
    | none =>
      rw [cached] at missing
      simp only [lookUp] at missing
      cases built : g.configuration.credentials tenantId with
      | ok tenant => rw [built] at missing; cases missing
      | error e' => rw [built] at missing; exact missing
  exact Configuration.credentials_eq_error construction

/-- Errors that a request brings about by itself. -/
def isRefusal : Error → Bool
  | .authentication | .format _ | .decryption _ => true
  | _ => false

/-- Where the steps come to nothing to send, the caches of handlers apart nothing has changed. -/
theorem conclude_unchanged {service : Platform.Service σ} {time : Int} {tenantId : String} {format : Format}
    {g : Gateway σ} {came : Except Error (Option (Inbound.Message × List Reply))}
    (nothing : (∃ e, came = .error e) ∨ came = .ok none) :
    (conclude service time tenantId format g came).1 = g := by
  rcases nothing with ⟨e, rfl⟩ | rfl <;> rfl

/-- The steps to the message are none of reading flags and rules. -/
theorem resolved_notMem_messageSteps (q : Webhook.Query) (tenant : Credentials) (format : Format) (body : Bytes)
    (m : Inbound.Message) : .resolved m ∉ (q.messageSteps tenant format body).steps := by
  intro member
  by_cases signed : q.signature = Signature.compute (q.signedParts tenant)
  · rw [Webhook.Query.messageSteps_of_signed signed] at member
    rcases q.plaintextSteps_cases tenant format body with
      ⟨_, steps⟩ | ⟨e, steps⟩ | ⟨signature, parts, steps⟩ | ⟨ciphertext, signature, _, steps⟩ <;>
      simp [steps] at member
  · rw [Webhook.Query.messageSteps_of_unsigned signed] at member
    simp at member

theorem steps_of_resolved {draw : Nat} {tenantId : String} {q : Webhook.Query} {contentType : Option String}
    {body : Bytes} {g : Gateway σ} {m : Inbound.Message}
    (member : .resolved m ∈ (g.steps draw tenantId q contentType body).steps) :
    ∃ tenant, (g.handler tenantId).2 = .ok tenant ∧
      q.message tenant (.ofContentType contentType) body = .ok (some m) ∧
      g.steps draw tenantId q contentType body =
        ⟨(Resolution.replies g.configuration tenantId m draw).map fun replies => some (m, replies),
          (q.messageSteps tenant (.ofContentType contentType) body).steps ++ [.resolved m]⟩ := by
  rcases g.steps_cases draw tenantId q contentType body with ⟨e, _, steps⟩ | ⟨tenant, found, rest⟩
  · rw [steps] at member
    cases member
  · have none := resolved_notMem_messageSteps q tenant (.ofContentType contentType) body m
    rcases rest with ⟨e, _, steps⟩ | ⟨_, steps⟩ | ⟨m', read, steps⟩
    · rw [steps] at member
      exact (none member).elim
    · rw [steps] at member
      exact (none member).elim
    · rw [steps, List.mem_append] at member
      rcases member with before | last
      · exact (none before).elim
      · obtain rfl : m = m' := by simpa using last
        exact ⟨tenant, found, read, steps⟩

/-- The steps to the message come first. -/
theorem exists_messageSteps_of_mem {draw : Nat} {tenantId : String} {q : Webhook.Query} {contentType : Option String}
    {body : Bytes} {g : Gateway σ} {step : Step} (member : step ∈ (g.steps draw tenantId q contentType body).steps)
    (other : ∀ m, step ≠ .resolved m) :
    ∃ tenant, (g.handler tenantId).2 = .ok tenant ∧
      step ∈ (q.messageSteps tenant (.ofContentType contentType) body).steps ∧
      (q.messageSteps tenant (.ofContentType contentType) body).steps <+:
        (g.steps draw tenantId q contentType body).steps := by
  rcases g.steps_cases draw tenantId q contentType body with ⟨e, _, steps⟩ | ⟨tenant, found, rest⟩
  · rw [steps] at member
    cases member
  · refine ⟨tenant, found, ?_⟩
    rcases rest with ⟨e, _, steps⟩ | ⟨_, steps⟩ | ⟨m, _, steps⟩
    · rw [steps] at member ⊢
      exact ⟨member, List.prefix_rfl⟩
    · rw [steps] at member ⊢
      exact ⟨member, List.prefix_rfl⟩
    · rw [steps] at member ⊢
      refine ⟨?_, List.prefix_append ..⟩
      rcases List.mem_append.1 member with before | last
      · exact before
      · exact (other m (List.mem_singleton.1 last)).elim

theorem result_steps_of_error {draw : Nat} {tenantId : String} {q : Webhook.Query} {contentType : Option String}
    {body : Bytes} {g : Gateway σ} {tenant : Credentials} {e : Error} (found : (g.handler tenantId).2 = .ok tenant)
    (failed : q.message tenant (.ofContentType contentType) body = .error e) :
    (g.steps draw tenantId q contentType body).result = .error e := by
  rcases g.steps_cases draw tenantId q contentType body with ⟨e', missing, _⟩ | ⟨tenant', found', rest⟩
  · rw [found] at missing
    cases missing
  · obtain rfl : tenant = tenant' := Except.ok.inj (found.symm.trans found')
    rcases rest with ⟨e', failed', steps⟩ | ⟨read, _⟩ | ⟨m, read, _⟩
    · rw [steps, Except.error.inj (failed.symm.trans failed')]
    · rw [failed] at read
      cases read
    · rw [failed] at read
      cases read

/-- A refusal comes from the steps to the message. -/
theorem steps_of_refusal {service : Platform.Service σ} {draw : Nat} {time : Int} {tenantId : String}
    {q : Webhook.Query} {contentType : Option String} {body : Bytes} {g : Gateway σ}
    (refused : (∃ e, (g.handle service draw time tenantId q contentType body).2 = .error e ∧ isRefusal e = true) ∨
      ∃ tenant, (g.handler tenantId).2 = .ok tenant ∧
        q.message tenant (.ofContentType contentType) body = .ok none) :
    ((∃ e, (g.steps draw tenantId q contentType body).result = .error e) ∨
        (g.steps draw tenantId q contentType body).result = .ok none) ∧
      ∀ m, .resolved m ∉ (g.steps draw tenantId q contentType body).steps := by
  rw [handle_eq_of_steps] at refused
  constructor
  · rcases refused with ⟨e, answered, _⟩ | ⟨tenant, found, unknown⟩
    · cases came : (g.steps draw tenantId q contentType body).result with
      | error e' => exact .inl ⟨e', rfl⟩
      | ok found =>
        cases found with
        | none => exact .inr rfl
        | some pair => rw [came] at answered; cases answered
    · rcases g.steps_cases draw tenantId q contentType body with ⟨e', missing, _⟩ | ⟨tenant', found', rest⟩
      · rw [found] at missing
        cases missing
      · obtain rfl : tenant = tenant' := Except.ok.inj (found.symm.trans found')
        rcases rest with ⟨e', failed, _⟩ | ⟨_, steps⟩ | ⟨m, read, _⟩
        · rw [unknown] at failed
          cases failed
        · exact .inr (by rw [steps])
        · rw [unknown] at read
          cases read
  · intro m member
    obtain ⟨tenant, found, read, steps⟩ := steps_of_resolved member
    rcases refused with ⟨e, answered, refusal⟩ | ⟨tenant', found', unknown⟩
    · rw [steps] at answered
      cases replies : Resolution.replies g.configuration tenantId m draw with
      | ok found => rw [replies] at answered; cases answered
      | error e' =>
        rw [replies] at answered
        cases answered
        obtain ⟨fault, rfl⟩ := Resolution.replies_eq_error replies
        cases refusal
    · obtain rfl : tenant = tenant' := Except.ok.inj (found.symm.trans found')
      rw [read] at unknown
      cases unknown

/-- The gateway proves itself by the text that it was given, once the signature over the request is right. -/
theorem verify_eq_ok_iff {g : Gateway σ} {tenantId : String} {q : Webhook.Query} {outcome : Outcome} :
    (g.verify tenantId q).2 = .ok outcome ↔
      ∃ tenant, (g.handler tenantId).2 = .ok tenant ∧
        q.signature = Signature.compute [tenant.token, q.timestamp, q.nonce] ∧ outcome = .echo (q.echo.getD "") := by
  have parts (tenant : Credentials) : q.isSigned tenant = true ↔
      q.signature = Signature.compute [tenant.token, q.timestamp, q.nonce] := Signature.verify_iff
  cases found : (g.handler tenantId).2 with
  | error e =>
    have pair : g.handler tenantId = ((g.handler tenantId).1, .error e) := Prod.ext rfl found
    rw [verify, pair]
    simp
  | ok tenant =>
    have pair : g.handler tenantId = ((g.handler tenantId).1, .ok tenant) := Prod.ext rfl found
    rw [verify, pair]
    constructor
    · intro answered
      simp only at answered
      split at answered
      · rename_i signed
        cases answered
        exact ⟨tenant, rfl, (parts tenant).1 signed, rfl⟩
      · cases answered
    · rintro ⟨tenant', same, signed, rfl⟩
      obtain rfl := Except.ok.inj same
      simp only [if_pos ((parts tenant).2 signed)]

/-- For every state and every request: before flags or rules are read, the signature of the request was found
right, and an encrypted body was in an envelope, its signature was found right over the ciphertext in it, and
that ciphertext was decrypted, in this order. Nothing is decrypted that did not pass both checks. -/
theorem handle_admission (service : Platform.Service σ) (draw : Nat) (time : Int) (tenantId : String)
    (q : Webhook.Query) (contentType : Option String) (body : Bytes) (g : Gateway σ) :
    let format := Format.ofContentType contentType
    let handled := g.handle service draw time tenantId q contentType body
    let trace := g.steps draw tenantId q contentType body
    handled = (g.handler tenantId).1.conclude service time tenantId format trace.result ∧
      (∀ m, .resolved m ∈ trace.steps →
        ∃ tenant, (g.handler tenantId).2 = .ok tenant ∧
          q.signature = Signature.compute [tenant.token, q.timestamp, q.nonce] ∧
          (q.encryption ≠ some "aes" ∧
              trace.steps = [.checked q.signature [tenant.token, q.timestamp, q.nonce] true, .resolved m] ∨
            ∃ ciphertext signature plain, q.Opens tenant format body ciphertext signature ∧
              Cipher.decrypt tenant.encodingKey ciphertext = .ok plain ∧
              trace.steps = q.checks tenant ciphertext signature ++
                [.decrypted tenant.encodingKey ciphertext, .resolved m])) ∧
      (∀ key ciphertext, .decrypted key ciphertext ∈ trace.steps →
        ∃ tenant signature, (g.handler tenantId).2 = .ok tenant ∧ key = tenant.encodingKey ∧
          q.signature = Signature.compute [tenant.token, q.timestamp, q.nonce] ∧
          q.Opens tenant format body ciphertext signature ∧
          q.checks tenant ciphertext signature ++ [.decrypted key ciphertext] <+: trace.steps) ∧
      (∀ tenant, (g.handler tenantId).2 = .ok tenant →
        q.signature ≠ Signature.compute [tenant.token, q.timestamp, q.nonce] →
          handled.2 = .error .authentication) ∧
      ((∃ e, handled.2 = .error e ∧ isRefusal e = true) ∨
          (∃ tenant, (g.handler tenantId).2 = .ok tenant ∧ q.message tenant format body = .ok none) →
        handled.1.configuration = g.configuration ∧ handled.1.tokens = g.tokens ∧ handled.1.clients = g.clients ∧
          ∀ m, .resolved m ∉ trace.steps) ∧
      ∀ outcome, (g.verify tenantId q).2 = .ok outcome ↔
        ∃ tenant, (g.handler tenantId).2 = .ok tenant ∧
          q.signature = Signature.compute [tenant.token, q.timestamp, q.nonce] ∧
          outcome = .echo (q.echo.getD "") := by
  intro format handled trace
  have concluded := handle_eq_of_steps service draw time tenantId q contentType body g
  refine ⟨concluded, ?_, ?_, ?_, ?_, fun outcome => verify_eq_ok_iff⟩
  · intro m member
    obtain ⟨tenant, found, read, steps⟩ := steps_of_resolved member
    have all : trace.steps = (q.messageSteps tenant format body).steps ++ [.resolved m] := congrArg Traced.steps steps
    obtain ⟨signed, ⟨plain, before⟩ | ⟨ciphertext, signature, plain, opens, decrypted, before⟩⟩ :=
      Webhook.Query.messageSteps_of_message read
    · exact ⟨tenant, found, signed, .inl ⟨plain, by rw [all, before]; rfl⟩⟩
    · exact ⟨tenant, found, signed, .inr ⟨ciphertext, signature, plain, opens, decrypted, by rw [all, before]; rfl⟩⟩
  · intro key ciphertext member
    obtain ⟨tenant, found, before, first⟩ := exists_messageSteps_of_mem member (fun m => nofun)
    obtain ⟨signed, own, signature, opens, steps⟩ := Webhook.Query.messageSteps_of_decrypted before
    exact ⟨tenant, signature, found, own, signed, opens, steps ▸ first⟩
  · intro tenant found unsigned
    have refused : q.message tenant format body = .error .authentication := by
      rw [← Webhook.Query.result_messageSteps, Webhook.Query.messageSteps_of_unsigned unsigned]
    have came : trace.result = .error .authentication := result_steps_of_error found refused
    rw [show handled = _ from concluded, came]
    rfl
  · intro refused
    obtain ⟨nothing, unresolved⟩ := steps_of_refusal refused
    have unchanged : handled.1 = (g.handler tenantId).1 := by
      rw [show handled = _ from concluded]
      exact conclude_unchanged nothing
    rw [unchanged]
    exact ⟨rfl, rfl, rfl, unresolved⟩

end Gateway
end ReplyGateway
