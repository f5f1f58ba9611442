import Mathlib
import ReplyGateway.Gateway
import ReplyGateway.Proofs.Platform.Requests

namespace ReplyGateway

open Platform

/-- The calls that send replies to a user, but for the reply inside the answer. -/
def Delivery.posts (toUser : String) : List Reply → List Post
  | [] => []
  | first :: rest =>
    if first.kind.isPassive then rest.map (.send toUser) else .typing toUser :: (first :: rest).map (.send toUser)

namespace Gateway

variable {σ : Type}

theorem client_of_error {g : Gateway σ} {tenantId : String} {e : Error} (missing : (g.client tenantId).2 = .error e) :
    (g.client tenantId).1 = g := by
  have clients : (g.clients.fetch (lookUp g.configuration) tenantId ()).2.1 = g.clients :=
    Recency.fetch_of_error missing
  change { g with clients := (g.clients.fetch (lookUp g.configuration) tenantId ()).2.1 } = g
  rw [clients]

/-- Pushing is making calls with the credentials of the tenant, if there are any. -/
theorem push_eq (service : Service σ) (tenantId toUser : String) (showsTyping : Bool) {replies : List Reply}
    (some' : replies ≠ []) (g : Gateway σ) :
    g.push service tenantId toUser showsTyping replies =
      match (g.client tenantId).2 with
      | .error _ => g
      | .ok tenant =>
        { (g.client tenantId).1 with
          tokens := makeAll service tenant
            ((if showsTyping then [.typing toUser] else []) ++ replies.map (.send toUser)) g.tokens } := by
  have notEmpty : replies.isEmpty = false := by simpa using some'
  rw [push, notEmpty]
  rcases found : g.client tenantId with ⟨g', e | tenant⟩
  · have same : (g.client tenantId).1 = g := client_of_error (by rw [found])
    rw [found] at same
    exact same
  · have tokens : g'.tokens = g.tokens := by
      have kept : (g.client tenantId).1.tokens = g.tokens := rfl
      rwa [found] at kept
    simp only [tokens, pushAll, makeAll, List.foldl_append, List.foldl_map]
    cases showsTyping <;> rfl

/-- What a gateway does with replies is to make the calls that send them. -/
theorem dispatch_eq (service : Service σ) (tenantId : String) (format : Format) (time : Int) (m : Inbound.Message)
    (replies : List Reply) (g : Gateway σ) :
    (g.dispatch service tenantId format time m replies).1 =
      if Delivery.posts m.fromUser replies = [] then g
      else
        match (g.client tenantId).2 with
        | .error _ => g
        | .ok tenant =>
          { (g.client tenantId).1 with
            tokens := makeAll service tenant (Delivery.posts m.fromUser replies) g.tokens } := by
  cases replies with
  | nil => rfl
  | cons first rest =>
    by_cases passive : first.kind.isPassive = true
    · cases rest with
      | nil => simp [dispatch, Delivery.ofReplies, Delivery.posts, passive, push]
      | cons second rest =>
        simp [dispatch, Delivery.ofReplies, Delivery.posts, passive, push_eq]
    · simp [dispatch, Delivery.ofReplies, Delivery.posts, passive, push_eq]

/-- For all replies and whatever the platform answers: the first reply goes inside the answer if its kind may, and
only then, and a call shows that an answer is being written if none goes there. All other replies are handed over
once each, in their order, and the platform gets one request for each of them for which there is a token. Without the
credentials of the tenant none is handed over; if there is none to hand over, nothing is touched. -/
theorem dispatch_delivers (service : Service σ) (tenantId : String) (format : Format) (time : Int)
    (m : Inbound.Message) (replies : List Reply) (g : Gateway (σ × List Request)) :
    let sent := g.dispatch (recorded service) tenantId format time m replies
    let posts := Delivery.posts m.fromUser replies
    (replies = [] → sent.2 = .acknowledged ∧ posts = []) ∧
      (∀ first rest, replies = first :: rest → first.kind.isPassive = true →
        (∃ body, first.passiveText? format ⟨m.fromUser, m.toUser, time⟩ = some body ∧ sent.2 = .reply body format) ∧
          posts = rest.map (.send m.fromUser)) ∧
      (∀ first rest, replies = first :: rest → first.kind.isPassive = false →
        sent.2 = .acknowledged ∧ posts = .typing m.fromUser :: replies.map (.send m.fromUser)) ∧
      (∀ r : Reply, ∃ members, r.pushBody = .object members ∧
        (Post.send m.fromUser r).body = .object (members ++ [("touser", .string m.fromUser)])) ∧
      (posts = [] → sent.1 = g) ∧
      (∀ e, (g.client tenantId).2 = .error e → sent.1 = g) ∧
      ∀ tenant, (g.client tenantId).2 = .ok tenant → posts ≠ [] →
        sent.1 = { (g.client tenantId).1 with tokens := makeAll (recorded service) tenant posts g.tokens } ∧
          let made := attempts (recorded service) tenant posts g.tokens
          made.map (·.1) = posts ∧
            posted sent.1.tokens.issuer.2 =
              posted g.tokens.issuer.2 ++ made.filterMap fun (p, token) => p.request? token := by
  intro sent posts
  have state := dispatch_eq (recorded service) tenantId format time m replies g
  refine ⟨?_, ?_, ?_, fun r => ⟨r.pushMembers, rfl, rfl⟩, fun none => ?_, fun e missing => ?_,
    fun tenant found some' => ?_⟩
  · rintro rfl
    exact ⟨rfl, rfl⟩
  · rintro first rest rfl passive
    obtain ⟨body, text⟩ := Option.isSome_iff_exists.1
      ((first.passiveText?_isSome format ⟨m.fromUser, m.toUser, time⟩).trans passive)
    refine ⟨⟨body, text, ?_⟩, by simp [posts, Delivery.posts, passive]⟩
    simp [sent, dispatch, Delivery.ofReplies, passive, inlineOutcome, text]
  · rintro first rest rfl active
    refine ⟨?_, by simp [posts, Delivery.posts, active]⟩
    simp [sent, dispatch, Delivery.ofReplies, active, inlineOutcome]
  · exact state.trans (if_pos none)
  · rw [show sent.1 = _ from state, missing]
    simp
  · have same : sent.1 = { (g.client tenantId).1 with tokens := makeAll (recorded service) tenant posts g.tokens } := by
      rw [show sent.1 = _ from state, if_neg some', found]
    refine ⟨same, map_attempts _ tenant posts _, ?_⟩
    rw [same]
    exact posted_makeAll service tenant posts g.tokens

end Gateway
end ReplyGateway
