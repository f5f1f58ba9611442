import ReplyGateway.Instant
import ReplyGateway.Text.Printable

namespace ReplyGateway

/-- A tenant as the gateway knows it: who it is and the secrets it shares with the platform. -/
structure Credentials where
  tenantId : String
  /-- The secret that requests are signed with. -/
  token : String
  /-- The text of the encryption key. -/
  encodingKey : String
  apiKey : String
  apiSecret : String
  deriving DecidableEq, Repr

namespace Credentials

def accessTokenSuffix : String := ":access_token"

def lockSuffix : String := ":access_token_lock"

/-- Where the access token of the tenant is kept. -/
def accessTokenKey (c : Credentials) : String := c.tenantId ++ accessTokenSuffix

/-- Where the lock is kept that guards the renewal of the access token. -/
def lockKey (c : Credentials) : String := c.tenantId ++ lockSuffix

/-- What may be shown of the credentials: none of the secrets. -/
def redacted (c : Credentials) : String :=
  "TenantCredentials \x7b tenant_id: " ++ quoted c.tenantId ++ ", api_key: " ++ quoted c.apiKey ++ ", .. \x7d"

end Credentials

/-- A tenant as it is stored. -/
structure Tenant where
  id : String
  name : String
  apiKey : String
  apiSecret : String
  token : String
  /-- The text of the encryption key, empty for a tenant that does not encrypt. -/
  encodingKey : String
  createdAt : Instant
  deriving DecidableEq, Repr

def Tenant.credentials (t : Tenant) : Credentials where
  tenantId := t.id
  token := t.token
  encodingKey := t.encodingKey
  apiKey := t.apiKey
  apiSecret := t.apiSecret

end ReplyGateway
