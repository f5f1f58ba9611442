import Mathlib
import ReplyGateway.Proofs.Gateway.Independence
import ReplyGateway.Proofs.Recency.Memo

namespace ReplyGateway

/-- What is known of tenants hangs on the rows of tenants, and on the tenant outside of the store. -/
theorem Configuration.credentials_congr {c c' : Configuration} (tenants : c.database.tenants = c'.database.tenants)
    (default : c.defaultTenant = c'.defaultTenant) : c.credentials = c'.credentials := by
  funext tenantId
  simp only [credentials, credentials?, Store.Database.tenant, tenants, default]

namespace Gateway

variable {σ τ : Type}

/-- A request to a gateway, with the moment of it and what the platform does then. -/
inductive Request (σ : Type)
  | verify (tenantId : String) (q : Webhook.Query)
  | handle (service : Platform.Service σ) (draw : Nat) (time : Int) (tenantId : String) (q : Webhook.Query)
      (contentType : Option String) (body : Bytes)

def Request.tenantId : Request σ → String
  | verify tenantId _ => tenantId
  | handle _ _ _ tenantId _ _ _ => tenantId

def answer (g : Gateway σ) : Request σ → Gateway σ × Except Error Outcome
  | .verify tenantId q => g.verify tenantId q
  | .handle service draw time tenantId q contentType body => g.handle service draw time tenantId q contentType body

/-- A request, with what has come about before it: what is in the database by then, and what becomes of the tokens while
time passes and renewals go on. -/
structure Visit (σ : Type) where
  database : Store.Database
  meanwhile : Token.Schedule σ → Token.Schedule σ
  request : Request σ

/-- Answers a request in the circumstances of its moment. -/
def visit (g : Gateway σ) (v : Visit σ) : Gateway σ × Except Error Outcome :=
  Gateway.answer ⟨⟨v.database, g.configuration.defaultTenant⟩, g.handlers, g.clients, v.meanwhile g.tokens⟩ v.request

/-- Answers requests one after another. -/
def visitAll (g : Gateway σ) : List (Visit σ) → Gateway σ × List (Except Error Outcome)
  | [] => (g, [])
  | v :: rest => (((g.visit v).1.visitAll rest).1, (g.visit v).2 :: ((g.visit v).1.visitAll rest).2)

/-- The answer of a gateway that remembers nothing. -/
def freshAnswer (defaultTenant : Option Credentials) (handlerCapacity clientCapacity : Nat) (platform : σ)
    (v : Visit σ) : Except Error Outcome :=
  ((start ⟨v.database, defaultTenant⟩ handlerCapacity clientCapacity platform).answer v.request).2

/-- The tenants whose credentials requests have found, each once. -/
def foundTenants (c : Configuration) (visits : List (Visit σ)) : List String :=
  ((visits.map fun v => v.request.tenantId).filter fun tenantId => (c.credentials tenantId).isOk).dedup

/-- What a gateway remembers after requests for tenants is what a configuration says of them. -/
structure Recalls (c : Configuration) (capacity : Nat) (tenantIds : List String) (g : Gateway σ) : Prop where
  tenants : g.configuration.database.tenants = c.database.tenants
  defaultTenant : g.configuration.defaultTenant = c.defaultTenant
  handlers : g.handlers = (Recency.empty capacity).fetchKeys c.credentials tenantIds
  clients : g.clients.Remembers c.credentials

variable {c : Configuration} {capacity : Nat} {tenantIds : List String} {g : Gateway σ} {g' : Gateway τ}
  {tenantId : String}

/-- A gateway that was just started remembers nothing. -/
theorem recalls_start (c : Configuration) (handlerCapacity clientCapacity : Nat) (platform : σ) :
    Recalls c handlerCapacity [] (start c handlerCapacity clientCapacity platform) :=
  ⟨rfl, rfl, rfl, Recency.remembers_empty _ clientCapacity⟩

theorem Recalls.of_alike (recalls : Recalls c capacity tenantIds g) (alike : Alike g' g) :
    Recalls c capacity tenantIds g' where
  tenants := alike.configuration ▸ recalls.tenants
  defaultTenant := alike.configuration ▸ recalls.defaultTenant
  handlers := alike.handlers.trans recalls.handlers
  clients := alike.clients ▸ recalls.clients

theorem Recalls.lookUp_eq (recalls : Recalls c capacity tenantIds g) :
    lookUp g.configuration = fun tenantId _ => (c.credentials tenantId, ()) := by
  unfold lookUp
  rw [Configuration.credentials_congr recalls.tenants recalls.defaultTenant]

/-- Requests are checked by the credentials that the configuration has. -/
theorem Recalls.handler (recalls : Recalls c capacity tenantIds g) (tenantId : String) :
    (g.handler tenantId).2 = c.credentials tenantId ∧
      Recalls c capacity (tenantIds ++ [tenantId]) (g.handler tenantId).1 := by
  have remembers := (Recency.remembers_empty c.credentials capacity).fetchKeys tenantIds
  have fetched := remembers.fetch tenantId
  have step : g.handlers.fetch (lookUp g.configuration) tenantId () =
      ((Recency.empty capacity).fetchKeys c.credentials tenantIds).fetchOf c.credentials tenantId := by
    rw [recalls.lookUp_eq, recalls.handlers]
    rfl
  refine ⟨?_, recalls.tenants, recalls.defaultTenant, ?_, recalls.clients⟩
  · rw [Gateway.handler, step]
    exact fetched.1
  · rw [Recency.fetchKeys_concat]
    simp only [Gateway.handler, step]

/-- The platform is called with the credentials that the configuration has. -/
theorem Recalls.client (recalls : Recalls c capacity tenantIds g) (tenantId : String) :
    (g.client tenantId).2 = c.credentials tenantId ∧ Recalls c capacity tenantIds (g.client tenantId).1 := by
  have fetched := recalls.clients.fetch tenantId
  have step : g.clients.fetch (lookUp g.configuration) tenantId () =
      g.clients.fetchOf c.credentials tenantId := by
    rw [recalls.lookUp_eq]
    rfl
  refine ⟨?_, recalls.tenants, recalls.defaultTenant, recalls.handlers, ?_⟩
  · rw [Gateway.client, step]
    exact fetched.1
  · simp only [Gateway.client, step]
    exact fetched.2

theorem verify_eq (tenantId : String) (q : Webhook.Query) (g : Gateway σ) :
    g.verify tenantId q = ((g.handler tenantId).1, (g.handler tenantId).2.bind fun tenant =>
      if q.isSigned tenant then .ok (.echo (q.echo.getD "")) else .error .authentication) := by
  unfold verify
  rcases g.handler tenantId with ⟨g', e | tenant⟩ <;> rfl

/-- An answer hangs on the configuration and on the credentials that the request is checked by. -/
theorem answer_congr {r : Request σ} {h : Gateway σ} (configuration : g.configuration = h.configuration)
    (handler : (g.handler r.tenantId).2 = (h.handler r.tenantId).2) : (g.answer r).2 = (h.answer r).2 := by
  cases r with
  | verify tenantId q =>
    simp only [answer, verify_eq]
    exact congrArg (Except.bind · _) handler
  | handle service draw time tenantId q contentType body =>
    have steps : g.steps draw tenantId q contentType body = h.steps draw tenantId q contentType body := by
      simp only [Request.tenantId] at handler
      simp only [steps, handler, configuration]
    simp only [answer, handle_eq_of_steps, steps]
    rcases (h.steps draw tenantId q contentType body).result with e | none | _ <;> rfl

/-- What a gateway is left with but for the tokens: the handler was looked for, and perhaps the client after it. -/
theorem answer_alike (r : Request σ) (g : Gateway σ) :
    Alike (g.answer r).1 (g.handler r.tenantId).1 ∨
      Alike (g.answer r).1 ((g.handler r.tenantId).1.client r.tenantId).1 := by
  cases r with
  | verify tenantId q =>
    rw [answer, verify_eq]
    exact .inl ⟨rfl, rfl, rfl⟩
  | handle service draw time tenantId q contentType body =>
    rw [answer, handle_eq_of_steps]
    rcases (g.steps draw tenantId q contentType body).result with e | none | ⟨m, replies⟩
    · exact .inl ⟨rfl, rfl, rfl⟩
    · exact .inl ⟨rfl, rfl, rfl⟩
    · have pushed := push_alike service tenantId m.fromUser (Delivery.ofReplies replies).inline.isNone
        (Delivery.ofReplies replies).pushed (g.handler tenantId).1
      split at pushed
      · exact .inl pushed
      · exact .inr pushed

/-- One request more is answered as if nothing was remembered, and leaves what can be remembered. -/
theorem Recalls.visit (recalls : Recalls c capacity tenantIds g) {v : Visit σ}
    (still : v.database.tenants = c.database.tenants) :
    (∀ handlerCapacity clientCapacity platform,
        (g.visit v).2 = freshAnswer c.defaultTenant handlerCapacity clientCapacity platform v) ∧
      Recalls c capacity (tenantIds ++ [v.request.tenantId]) (g.visit v).1 := by
  have now : Recalls c capacity tenantIds
      (⟨⟨v.database, g.configuration.defaultTenant⟩, g.handlers, g.clients, v.meanwhile g.tokens⟩ : Gateway σ) :=
    ⟨still, recalls.defaultTenant, recalls.handlers, recalls.clients⟩
  obtain ⟨found, after⟩ := now.handler v.request.tenantId
  refine ⟨fun handlerCapacity clientCapacity platform => ?_, ?_⟩
  · have fresh := recalls_start ⟨v.database, c.defaultTenant⟩ handlerCapacity clientCapacity platform
    have same : (⟨v.database, c.defaultTenant⟩ : Configuration).credentials = c.credentials :=
      Configuration.credentials_congr still rfl
    refine answer_congr (congrArg (Configuration.mk v.database) recalls.defaultTenant) ?_
    rw [found, (fresh.handler v.request.tenantId).1, same]
  · rcases answer_alike v.request _ with looked | called
    · exact after.of_alike looked
    · exact (after.client _).2.of_alike called

/-- By induction on the requests: each is answered as if nothing was remembered, and leaves what can be remembered. -/
theorem Recalls.visitAll {visits : List (Visit σ)} (recalls : Recalls c capacity tenantIds g)
    (still : ∀ v ∈ visits, v.database.tenants = c.database.tenants) :
    (∀ handlerCapacity clientCapacity platform,
        (g.visitAll visits).2 = visits.map (freshAnswer c.defaultTenant handlerCapacity clientCapacity platform)) ∧
      Recalls c capacity (tenantIds ++ visits.map fun v => v.request.tenantId) (g.visitAll visits).1 := by
  induction visits generalizing g tenantIds with
  | nil => exact ⟨fun _ _ _ => rfl, (List.append_nil tenantIds).symm ▸ recalls⟩
  | cons v rest ih =>
    obtain ⟨answer, next⟩ := recalls.visit (still v (List.mem_cons_self ..))
    obtain ⟨answers, last⟩ := ih next fun w member => still w (List.mem_cons_of_mem _ member)
    refine ⟨fun handlerCapacity clientCapacity platform => ?_, ?_⟩
    · rw [Gateway.visitAll, List.map_cons, answer handlerCapacity clientCapacity platform,
        answers handlerCapacity clientCapacity platform]
    · rw [List.map_cons, List.append_cons]
      exact last

/-- While the rows of tenants stay as they are, whatever becomes of rules, flags and tokens: every request is answered
as by a gateway that was started for it alone. The gateway remembers the tenants that were found, up to its capacity,
and checks requests and calls the platform by the credentials that the configuration has. -/
theorem visitAll_eq_fresh (c : Configuration) (handlerCapacity clientCapacity : Nat) (platform : σ)
    (visits : List (Visit σ)) (still : ∀ v ∈ visits, v.database.tenants = c.database.tenants) :
    let run := (start c handlerCapacity clientCapacity platform).visitAll visits
    (∀ handlerCapacity' clientCapacity' platform',
        run.2 = visits.map (freshAnswer c.defaultTenant handlerCapacity' clientCapacity' platform')) ∧
      run.1.cachedTenants = min (max handlerCapacity 1) (foundTenants c visits).length ∧
      ∀ tenantId, (run.1.handler tenantId).2 = c.credentials tenantId ∧
        (run.1.client tenantId).2 = c.credentials tenantId := by
  intro run
  obtain ⟨answers, recalls⟩ := (recalls_start c handlerCapacity clientCapacity platform).visitAll still
  refine ⟨answers, ?_, fun tenantId => ⟨(recalls.handler tenantId).1, (recalls.client tenantId).1⟩⟩
  rw [cachedTenants, recalls.handlers, List.nil_append, Recency.size_fetchKeys, foundTenants]

/-- Requests for a known tenant while there is a rule, for one that is not known, for the one outside of the store, for
one whose row cannot be read, and for the first one again. -/
theorem visitAll_eq_fresh_of_five :
    let row (createdAt : String) : Store.TenantRow := ⟨"", "", "", "secret", "", createdAt⟩
    let tenants := (Table.empty.put "wx1" (row "2024-01-01T00:00:00Z")).put "torn" (row "yesterday")
    let before : Store.Database := ⟨.current, tenants, .empty, .empty⟩
    let rule : Store.RuleRow := ⟨1, "wx1", .message, "", "{}", "", "", "", "2024-01-01T00:00:00Z"⟩
    let after : Store.Database :=
      ⟨.current, tenants, Table.empty.put ("wx1", .message) true, ⟨[rule], 1, by decide, by decide⟩⟩
    let c : Configuration := ⟨before, some ⟨"wxenv", "secret", "", "", ""⟩⟩
    let q : Webhook.Query := ⟨Signature.compute ["secret", "1", "n"], "1", "n", some "e", none, none⟩
    let visits : List (Visit Unit) :=
      [⟨after, id, .handle Platform.unreachable 0 100 "wx1" q none (Bytes.ofString "<xml/>")⟩,
        ⟨after, id, .verify "nobody" q⟩,
        ⟨before, id, .verify "wxenv" q⟩, ⟨before, id, .verify "torn" q⟩, ⟨before, id, .verify "wx1" q⟩]
    let run := (start c 1 0 ()).visitAll visits
    (∀ v ∈ visits, v.database.tenants = c.database.tenants) ∧ foundTenants c visits = ["wxenv", "wx1"] ∧
      run.2 = visits.map (freshAnswer c.defaultTenant 5 5 ()) ∧ run.1.cachedTenants = 1 ∧
      ((start c 5 0 ()).visitAll visits).1.cachedTenants = 2 := by
  intro row tenants before rule after c q visits run
  have still : ∀ v ∈ visits, v.database.tenants = c.database.tenants := by simp [visits, c, before, after]
  have found : foundTenants c visits = ["wxenv", "wx1"] := by decide +kernel
  obtain ⟨answers, cached, _⟩ := visitAll_eq_fresh c 1 0 () visits still
  have more := (visitAll_eq_fresh c 5 0 () visits still).2.1
  rw [found] at cached more
  exact ⟨still, found, answers 5 5 (), cached, more⟩

end Gateway
end ReplyGateway
