import ReplyGateway.Cipher.Fault
import ReplyGateway.Inbound.Decode
import ReplyGateway.Store.Fault

namespace ReplyGateway

/-- Everything that can keep the gateway from serving a request. -/
inductive Error
  | authentication
  | format (reason : String)
  | decryption (fault : Cipher.Fault)
  | credential (reason : String)
  | platformApi (code : Int) (message : String)
  | configurationMissing (tenantId : String)
  | store (fault : Store.Fault)
  /-- A request to the platform that failed on its way, or an answer that is none. The reason is missing where
  the connection failed by itself. -/
  | transport (reason : Option String)
  | internal (reason : String)
  deriving DecidableEq, Repr

namespace Error

def ofBodyFault (fault : Inbound.BodyFault) : Error := format fault.message

/-- The text for the log. -/
def message : Error → String
  | authentication => "Signature verification failed"
  | format reason => s!"Malformed request: {reason}"
  | decryption fault => s!"Decryption failed: {fault.message}"
  | credential reason => s!"Credential error: {reason}"
  | platformApi code message => s!"Platform API error {code}: {message}"
  | configurationMissing tenantId => s!"No configuration for tenant {tenantId}"
  | store fault => s!"Configuration store error: {fault.message}"
  | transport none => "Transport error"
  | transport (some reason) => s!"Transport error: {reason}"
  | internal reason => s!"Internal error: {reason}"

/-- The code that an answer shows. -/
def code : Error → Int
  | configurationMissing _ => 404
  | platformApi code _ => code
  | _ => 1

/-- The text that an answer shows. -/
def publicMessage : Error → String
  | authentication => "signature mismatch"
  | format _ => "malformed request"
  | decryption _ => "decryption failed"
  | credential _ => "credential unavailable"
  | platformApi .. => "platform call failed"
  | configurationMissing _ => "unknown tenant"
  | store _ | transport _ | internal _ => "internal error"

/-- The codes by which the platform rejects an access token. -/
def tokenInvalidCodes : List Int := [40001, 40014, 42001]

/-- The code by which the platform refuses a call that the account has no right to. -/
def unauthorizedCode : Int := 48001

/-- Whether the platform has rejected the access token. -/
def isTokenInvalid : Error → Bool
  | platformApi code _ => tokenInvalidCodes.contains code
  | _ => false

end Error
end ReplyGateway
