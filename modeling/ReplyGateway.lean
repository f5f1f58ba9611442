import ReplyGateway.Aes.Block
import ReplyGateway.Aes.Byte
import ReplyGateway.Aes.Chaining
import ReplyGateway.Aes.Rounds
import ReplyGateway.Base64
import ReplyGateway.Binary64
import ReplyGateway.Bytes
import ReplyGateway.Category
import ReplyGateway.Cipher
import ReplyGateway.Cipher.Fault
import ReplyGateway.Cipher.Frame
import ReplyGateway.Cipher.Key
import ReplyGateway.Cipher.Padding
import ReplyGateway.Configuration
import ReplyGateway.Decimal.Shortest
import ReplyGateway.Domain.Bidi
import ReplyGateway.Domain.Joiner
import ReplyGateway.Domain.Mapping
import ReplyGateway.Domain.Name
import ReplyGateway.Domain.Punycode
import ReplyGateway.Error
import ReplyGateway.Format
import ReplyGateway.Gateway
import ReplyGateway.Http.Form
import ReplyGateway.Http.Method
import ReplyGateway.Http.Request
import ReplyGateway.Http.Response
import ReplyGateway.Http.Router
import ReplyGateway.Http.Status
import ReplyGateway.Inbound.Decode
import ReplyGateway.Inbound.Form
import ReplyGateway.Inbound.Message
import ReplyGateway.Instant
import ReplyGateway.Instant.Lenient
import ReplyGateway.Json.Document
import ReplyGateway.Json.Numeral
import ReplyGateway.Json.Printer
import ReplyGateway.Json.Quoted
import ReplyGateway.Json.Reader
import ReplyGateway.Json.Token
import ReplyGateway.Json.Tree
import ReplyGateway.KeyValue
import ReplyGateway.Keyword
import ReplyGateway.Locator
import ReplyGateway.Locator.Host
import ReplyGateway.Menu
import ReplyGateway.Platform.Client
import ReplyGateway.Platform.Issuer
import ReplyGateway.Platform.Service
import ReplyGateway.Proofs.Base64
import ReplyGateway.Proofs.Base64.Bits
import ReplyGateway.Proofs.Base64.Canonical
import ReplyGateway.Proofs.Cipher.Acceptance
import ReplyGateway.Proofs.Cipher.Key
import ReplyGateway.Proofs.Cipher.RoundTrip
import ReplyGateway.Proofs.Gateway.Admission
import ReplyGateway.Proofs.Gateway.Caching
import ReplyGateway.Proofs.Gateway.Dispatch
import ReplyGateway.Proofs.Gateway.Encryption
import ReplyGateway.Proofs.Gateway.Independence
import ReplyGateway.Proofs.Http.Webhook
import ReplyGateway.Proofs.Inbound.Decode
import ReplyGateway.Proofs.Inbound.Envelope
import ReplyGateway.Proofs.Inbound.Fields
import ReplyGateway.Proofs.Inbound.Form
import ReplyGateway.Proofs.Inbound.TextReply
import ReplyGateway.Proofs.Inbound.Verbatim
import ReplyGateway.Proofs.Instant
import ReplyGateway.Proofs.Json.Numeral
import ReplyGateway.Proofs.Json.Plain
import ReplyGateway.Proofs.Json.Quoted
import ReplyGateway.Proofs.Json.Record
import ReplyGateway.Proofs.Json.Token
import ReplyGateway.Proofs.Json.Written
import ReplyGateway.Proofs.KeyValue.History
import ReplyGateway.Proofs.Menu
import ReplyGateway.Proofs.Outline
import ReplyGateway.Proofs.Platform.Outcome
import ReplyGateway.Proofs.Platform.Rejection
import ReplyGateway.Proofs.Platform.Requests
import ReplyGateway.Proofs.Platform.Traffic
import ReplyGateway.Proofs.Recency.History
import ReplyGateway.Proofs.Recency.Memo
import ReplyGateway.Proofs.Recency.Serial
import ReplyGateway.Proofs.Recency.Traffic
import ReplyGateway.Proofs.Reply.Encodings
import ReplyGateway.Proofs.Reply.Passive
import ReplyGateway.Proofs.Reply.Stored
import ReplyGateway.Proofs.Reply.Time
import ReplyGateway.Proofs.Reply.WellFormed
import ReplyGateway.Proofs.Resolution.Click
import ReplyGateway.Proofs.Resolution.Failure
import ReplyGateway.Proofs.Resolution.Isolation
import ReplyGateway.Proofs.Resolution.Provenance
import ReplyGateway.Proofs.Resolution.Text
import ReplyGateway.Proofs.Sha1.Pieces
import ReplyGateway.Proofs.Signature
import ReplyGateway.Proofs.Store.Deeds
import ReplyGateway.Proofs.Store.History
import ReplyGateway.Proofs.Text.Integer
import ReplyGateway.Proofs.Token.Failure
import ReplyGateway.Proofs.Token.Isolation
import ReplyGateway.Proofs.Token.Lease
import ReplyGateway.Proofs.Token.LockOwnership
import ReplyGateway.Proofs.Token.Look
import ReplyGateway.Proofs.Token.Move
import ReplyGateway.Proofs.Token.Prompt
import ReplyGateway.Proofs.Token.Renewal
import ReplyGateway.Proofs.Token.Replacement
import ReplyGateway.Proofs.Token.Replay
import ReplyGateway.Proofs.Token.Revocation
import ReplyGateway.Proofs.Token.Sequence
import ReplyGateway.Proofs.Token.SingleFlight
import ReplyGateway.Proofs.Token.Solo
import ReplyGateway.Proofs.Token.Traffic
import ReplyGateway.Proofs.Token.Waiting
import ReplyGateway.Proofs.Utf8
import ReplyGateway.Proofs.Xml.Fields
import ReplyGateway.Proofs.Xml.Surroundings
import ReplyGateway.Proofs.Xml.Text
import ReplyGateway.Proofs.Xml.WellFormed
import ReplyGateway.Proofs.Xml.Written
import ReplyGateway.Recency
import ReplyGateway.Recency.Shared
import ReplyGateway.Reply.Message
import ReplyGateway.Reply.Passive
import ReplyGateway.Reply.Payload
import ReplyGateway.Reply.Push
import ReplyGateway.Reply.Stored
import ReplyGateway.Resolution
import ReplyGateway.Rule
import ReplyGateway.Settings
import ReplyGateway.Settings.ProxyAddress
import ReplyGateway.Settings.SocketAddress
import ReplyGateway.Sha1
import ReplyGateway.Sha1.Hasher
import ReplyGateway.Signature
import ReplyGateway.Store.Database
import ReplyGateway.Store.Fault
import ReplyGateway.Store.Rules
import ReplyGateway.Store.Schema
import ReplyGateway.Table
import ReplyGateway.Tenant
import ReplyGateway.Text.Blank
import ReplyGateway.Text.Digit
import ReplyGateway.Text.Integer
import ReplyGateway.Text.Lossy
import ReplyGateway.Text.Percent
import ReplyGateway.Text.Pieces
import ReplyGateway.Text.Printable
import ReplyGateway.Token.Call
import ReplyGateway.Token.Schedule
import ReplyGateway.Unicode.BidiClass
import ReplyGateway.Unicode.CombiningClass
import ReplyGateway.Unicode.Composite
import ReplyGateway.Unicode.JoiningType
import ReplyGateway.Unicode.Mark
import ReplyGateway.Unicode.Normalization
import ReplyGateway.Unicode.Stretches
import ReplyGateway.Webhook
import ReplyGateway.Xml.Attribute
import ReplyGateway.Xml.Element
import ReplyGateway.Xml.Fields
import ReplyGateway.Xml.Markup
import ReplyGateway.Xml.Printer
import ReplyGateway.Xml.Reference
import ReplyGateway.Xml.Run
import ReplyGateway.Proofs.Store.Corruption
import ReplyGateway.Proofs.Store.Tenants
