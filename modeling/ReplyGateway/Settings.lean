import ReplyGateway.Settings.ProxyAddress
import ReplyGateway.Settings.SocketAddress
import ReplyGateway.Tenant
import ReplyGateway.Text.Integer

namespace ReplyGateway

/-- The settings of the gateway. -/
structure Settings where
  listenAddress : SocketAddress := .v4 [0, 0, 0, 0] 8080
  databasePath : String := "./mpgate.db"
  handlerCapacity : Nat := 2
  clientCapacity : Nat := 2
  platformBaseUrl : String := "https://api.weixin.qq.com"
  platformProxy : Option String := none
  platformTimeoutSeconds : Nat := 10
  /-- A tenant that is configured outside of the database. -/
  defaultTenant : Option Credentials := none
  deriving Repr

namespace Settings

/-- A number greater than zero. -/
def positive? (s : String) : Option Nat := (nat64? s).filter (0 < ·)

/-- The text without the slashes at its end. -/
def trimSlashes (s : String) : String := String.ofList (s.toList.reverse.dropWhile (· = '/')).reverse

/-- The settings that variables of the environment give. One that is missing or cannot be read leaves the default. -/
def ofEnvironment (lookup : String → Option String) : Settings :=
  let default : Settings := {}
  let nonEmpty := fun name => (lookup name).filter (· ≠ "")
  let textOr := fun name => (lookup name).getD ""
  { listenAddress := (lookup "HTTP_ADDR" >>= SocketAddress.ofString?).getD default.listenAddress
    databasePath := (lookup "DATABASE_PATH").getD default.databasePath
    handlerCapacity := (lookup "HANDLER_CACHE_CAPACITY" >>= positive?).getD default.handlerCapacity
    clientCapacity := (lookup "CLIENT_CACHE_CAPACITY" >>= positive?).getD default.clientCapacity
    platformBaseUrl := ((lookup "PLATFORM_BASE_URL").map trimSlashes).getD default.platformBaseUrl
    platformProxy := nonEmpty "WA_PROXY"
    platformTimeoutSeconds := (lookup "PLATFORM_TIMEOUT_SECS" >>= positive?).getD default.platformTimeoutSeconds
    defaultTenant := (nonEmpty "MP_APPID").map fun id =>
      ⟨id, textOr "MP_TOKEN", textOr "MP_AESKEY", id, textOr "MP_APPSECRET"⟩ }

/-- Whether requests to the platform can be made: a proxy, if there is one, has to be usable. -/
def canConnect (s : Settings) : Bool := s.platformProxy.all ProxyAddress.isUsable

end Settings
end ReplyGateway
