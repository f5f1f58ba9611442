import ReplyGateway.Cipher
import ReplyGateway.Error
import ReplyGateway.Inbound.Decode
import ReplyGateway.Signature
import ReplyGateway.Tenant

namespace ReplyGateway.Webhook

/-- What comes with a request of the platform beside its body. -/
structure Query where
  signature : String
  timestamp : String
  nonce : String
  /-- The text that the platform wants to get back. -/
  echo : Option String
  encryption : Option String
  /-- The signature over an encrypted body. -/
  bodySignature : Option String
  deriving DecidableEq, Repr

namespace Query

/-- The name of the one way to encrypt bodies. -/
def aes : String := "aes"

def isEncrypted (q : Query) : Bool := q.encryption == some aes

/-- What the signature of a request is over. -/
def signedParts (q : Query) (tenant : Credentials) : List String := [tenant.token, q.timestamp, q.nonce]

/-- Whether the request comes from someone who knows the token of the tenant. -/
def isSigned (q : Query) (tenant : Credentials) : Bool := Signature.verify q.signature (q.signedParts tenant)

/-- Whether an encrypted body comes from someone who knows the token of the tenant. -/
def isBodySigned (q : Query) (tenant : Credentials) (encrypted : String) : Bool :=
  q.bodySignature.any fun signature => Signature.verify signature (q.signedParts tenant ++ [encrypted])

/-- The body in plain text. An encrypted one is taken out of its envelope and decrypted. -/
def plaintext (q : Query) (tenant : Credentials) (format : Format) (body : Bytes) : Except Error Bytes :=
  if q.isEncrypted then
    match Inbound.decodeEnvelope format body with
    | .error fault => .error (.ofBodyFault fault)
    | .ok envelope =>
      if q.isBodySigned tenant envelope.encrypted then
        (Cipher.decrypt tenant.encodingKey envelope.encrypted).mapError .decryption
      else .error .authentication
  else .ok body

/-- The message in a request; `none` if its kind is not known. -/
def message (q : Query) (tenant : Credentials) (format : Format) (body : Bytes) :
    Except Error (Option Inbound.Message) := do
  if q.isSigned tenant then
    (Inbound.decodeMessage format (← q.plaintext tenant format body)).mapError .ofBodyFault
  else .error .authentication

/-- Nothing is read from a request without the right signature. -/
theorem message_of_unsigned {q : Query} {tenant : Credentials} (h : q.isSigned tenant = false) (format : Format)
    (body : Bytes) : q.message tenant format body = .error .authentication := by
  simp [message, h]

end Query
end ReplyGateway.Webhook
