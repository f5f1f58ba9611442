import Mathlib
import ReplyGateway.Resolution

namespace ReplyGateway

theorem Configuration.rules_eq_error {c : Configuration} {tenantId : String} {category : Category} {e : Error}
    (failed : c.rules tenantId category = .error e) : ∃ fault, e = .store fault := by
  unfold rules at failed
  cases listed : c.database.listRules tenantId category with
  | ok rules => rw [listed] at failed; cases failed
  | error fault => rw [listed] at failed; cases failed; exact ⟨fault, rfl⟩

/-- Credentials cannot be found if a tenant is missing or the store failed. -/
theorem Configuration.credentials_eq_error {c : Configuration} {tenantId : String} {e : Error}
    (failed : c.credentials tenantId = .error e) :
    e = .configurationMissing tenantId ∨ ∃ fault, e = .store fault := by
  unfold credentials at failed
  split at failed
  · cases failed
  · cases failed
    exact .inl rfl
  · rename_i e' known
    cases failed
    unfold credentials? at known
    split at known
    · cases known
    · split at known
      · cases known
      · cases known
      · cases known
        exact .inr ⟨_, rfl⟩

namespace Resolution

/-- An error of what follows the rules of a category is one of the rules if the rest cannot fail. -/
theorem bind_rules_eq_error {α : Type} {c : Configuration} {tenantId : String} {category : Category} {e : Error}
    {f : List Rule → α} (failed : (do return f (← c.rules tenantId category) : Except Error α) = .error e) :
    ∃ fault, e = .store fault := by
  cases read : c.rules tenantId category with
  | ok rules => rw [read] at failed; cases failed
  | error e' =>
    rw [read] at failed
    cases failed
    exact Configuration.rules_eq_error read

theorem single?_eq_error {c : Configuration} {tenantId : String} {category : Category} {e : Error}
    (failed : single? c tenantId category = .error e) : ∃ fault, e = .store fault := by
  unfold single? at failed
  split at failed
  · exact bind_rules_eq_error failed
  · cases failed

theorem keyword?_eq_error {c : Configuration} {tenantId text : String} {e : Error}
    (failed : keyword? c tenantId text = .error e) : ∃ fault, e = .store fault := by
  unfold keyword? at failed
  split at failed
  · exact bind_rules_eq_error failed
  · cases failed

theorem text?_eq_error {c : Configuration} {tenantId text : String} {e : Error}
    (failed : text? c tenantId text = .error e) : ∃ fault, e = .store fault := by
  unfold text? at failed
  cases found : keyword? c tenantId text with
  | error e' =>
    rw [found] at failed
    cases failed
    exact keyword?_eq_error found
  | ok p =>
    rw [found] at failed
    simp only [bind, Except.bind] at failed
    split at failed
    · cases failed
    · exact single?_eq_error failed

/-- No payload can be found only if the store failed, whatever the message is. -/
theorem payload?_eq_error {c : Configuration} {tenantId : String} {m : Inbound.Message} {e : Error}
    (failed : payload? c tenantId m = .error e) : ∃ fault, e = .store fault := by
  unfold payload? at failed
  split at failed
  · exact text?_eq_error failed
  · exact single?_eq_error failed
  · exact single?_eq_error failed
  · exact single?_eq_error failed
  · split at failed
    · exact single?_eq_error failed
    · split at failed
      · exact bind_rules_eq_error failed
      · cases failed
  · cases failed
  · cases failed
  · cases failed

/-- Nothing but the store keeps a message from being answered. -/
theorem replies_eq_error {c : Configuration} {tenantId : String} {m : Inbound.Message} {draw : Nat} {e : Error}
    (failed : replies c tenantId m draw = .error e) : ∃ fault, e = .store fault := by
  unfold replies at failed
  cases found : payload? c tenantId m with
  | ok p => rw [found] at failed; cases failed
  | error e' =>
    rw [found] at failed
    cases failed
    exact payload?_eq_error found

end Resolution
end ReplyGateway
