import Mathlib
import ReplyGateway.Gateway
import ReplyGateway.Proofs.Cipher.RoundTrip
import ReplyGateway.Proofs.Inbound.Envelope

namespace ReplyGateway

namespace Cipher

/-- A ciphertext has no character that a body in either format could change. -/
theorem forall_mem_seal (key : Key) (frame : Frame) :
    ∀ c ∈ (key.seal frame).toList, Xml.isSpace c = false ∧ c ≠ ']' := by
  have letters : ∀ x, Base64.isLetter x = true → Xml.isSpace (Bytes.toChar x) = false ∧ Bytes.toChar x ≠ ']' :=
    Base64.forall_isLetter (by decide +kernel)
  exact Base64.forall_mem_encodeText letters _

end Cipher

namespace Webhook.Query

/-- The query of the request with a ciphertext in its body. -/
def encrypted (q : Query) (tenant : Credentials) (ciphertext : String) : Query :=
  { q with
    encryption := some aes
    bodySignature := some (Signature.compute [tenant.token, q.timestamp, q.nonce, ciphertext]) }

theorem plaintext_of_plain {q : Query} (plain : q.isEncrypted = false) (tenant : Credentials) (format : Format)
    (body : Bytes) : q.plaintext tenant format body = .ok body := by
  rw [plaintext, plain]
  rfl

/-- An envelope that is signed over its ciphertext is opened to what the ciphertext holds. -/
theorem plaintext_encrypted {q : Query} {tenant : Credentials} {format : Format} {body content : Bytes}
    {toUser ciphertext : String} (opened : Inbound.decodeEnvelope format body = .ok ⟨toUser, ciphertext⟩)
    (decrypted : Cipher.decrypt tenant.encodingKey ciphertext = .ok content) :
    (q.encrypted tenant ciphertext).plaintext tenant format body = .ok content := by
  have signed : (q.encrypted tenant ciphertext).isBodySigned tenant ciphertext = true := by
    simp [isBodySigned, encrypted, signedParts, Signature.verify_iff]
  have isEncrypted : (q.encrypted tenant ciphertext).isEncrypted = true := by simp [Query.isEncrypted, encrypted]
  rw [plaintext, if_pos isEncrypted, opened]
  simp only [if_pos signed, decrypted]
  rfl

/-- Whoever encrypts a body does not change the message. -/
theorem message_encrypted {q : Query} {tenant : Credentials} {format : Format} {body content : Bytes}
    {toUser ciphertext : String} (plain : q.isEncrypted = false)
    (opened : Inbound.decodeEnvelope format body = .ok ⟨toUser, ciphertext⟩)
    (decrypted : Cipher.decrypt tenant.encodingKey ciphertext = .ok content) :
    (q.encrypted tenant ciphertext).message tenant format body = q.message tenant format content := by
  have signed : (q.encrypted tenant ciphertext).isSigned tenant = q.isSigned tenant := rfl
  rw [message, message, plaintext_encrypted opened decrypted, plaintext_of_plain plain, signed]

end Webhook.Query

namespace Gateway

variable {σ : Type}

/-- What is answered, and what is done, depends on a request only through the message in it. -/
theorem handle_congr {service : Platform.Service σ} {draw : Nat} {time : Int} {tenantId : String}
    {q q' : Webhook.Query} {contentType : Option String} {body body' : Bytes} {g : Gateway σ} {tenant : Credentials}
    (found : (g.handler tenantId).2 = .ok tenant)
    (same : q.message tenant (.ofContentType contentType) body =
      q'.message tenant (.ofContentType contentType) body') :
    g.handle service draw time tenantId q contentType body =
      g.handle service draw time tenantId q' contentType body' := by
  have pair : g.handler tenantId = ((g.handler tenantId).1, .ok tenant) := Prod.ext rfl found
  rw [handle, handle, pair]
  simp only [same]

/-- A request with an encrypted body is answered like the one with its content, and the gateway is left in the same
state: whatever the content is, and whichever envelope holds the ciphertext. -/
theorem handle_encrypted (service : Platform.Service σ) (draw : Nat) (time : Int) {tenantId : String}
    {q : Webhook.Query} (contentType : Option String) {g : Gateway σ} {tenant : Credentials} {key : Cipher.Key}
    (found : (g.handler tenantId).2 = .ok tenant) (readable : Cipher.Key.decode tenant.encodingKey = .ok key)
    (plain : q.isEncrypted = false) (random : Aes.Block) (receiver : String) {content : Bytes}
    (small : content.length < 2 ^ 32) :
    ∃ ciphertext, Cipher.encrypt random content tenant.encodingKey receiver = .ok ciphertext ∧
      let format := Format.ofContentType contentType
      let sealed := q.encrypted tenant ciphertext
      let answer := g.handle service draw time tenantId q contentType content
      (∀ body toUser, Inbound.decodeEnvelope format body = .ok ⟨toUser, ciphertext⟩ →
          g.handle service draw time tenantId sealed contentType body = answer) ∧
        (∀ toUser, let envelope : Inbound.Envelope := ⟨toUser, ciphertext⟩
          g.handle service draw time tenantId sealed contentType (envelope.write format) = answer) ∧
        ∀ toUser : String, format = .xml → ¬ [']', ']', '>'] <:+: toUser.toList →
          let envelope : Inbound.Envelope := ⟨toUser, ciphertext⟩
          g.handle service draw time tenantId sealed contentType envelope.writeVerbatim = answer := by
  let frame : Cipher.Frame := ⟨random, content, Bytes.ofString receiver⟩
  have fits : frame.content.length < Cipher.Frame.sizeLimit := small
  have encrypted := Cipher.encrypt_eq_seal readable random fits receiver
  have decrypted := Cipher.decrypt_seal readable fits
  have chars := Cipher.forall_mem_seal key frame
  generalize key.seal frame = ciphertext at encrypted decrypted chars
  have answered {body : Bytes} {toUser : String}
      (opened : Inbound.decodeEnvelope (.ofContentType contentType) body = .ok ⟨toUser, ciphertext⟩) :
      g.handle service draw time tenantId (q.encrypted tenant ciphertext) contentType body =
        g.handle service draw time tenantId q contentType content :=
    handle_congr found (Webhook.Query.message_encrypted plain opened decrypted)
  refine ⟨ciphertext, encrypted, fun body toUser opened => answered opened, fun toUser => ?_,
    fun toUser xml free => ?_⟩
  · obtain ⟨read, opened⟩ := Inbound.Envelope.decodeEnvelope_write ⟨toUser, ciphertext⟩ (fun c mem => (chars c mem).1)
      (.ofContentType contentType)
    exact answered opened
  · have noMark : ¬ [']', ']', '>'] <:+: ciphertext.toList := by
      intro inside
      exact (chars ']' (inside.subset (by simp))).2 rfl
    have opened := Inbound.Envelope.decodeEnvelope_writeVerbatim ⟨toUser, ciphertext⟩ free noMark
    rw [← xml] at opened
    exact answered opened

/-- The content is a byte that spells no text, encrypted for a tenant outside of the store, in an envelope of XML. -/
theorem handle_encrypted_of_default :
    let tenant : Credentials := ⟨"wx1", "secret", "AAECAwQFBgcICQoLDA0ODxAREhMUFRYXGBkaGxwdHh8", "", ""⟩
    let g : Gateway Unit := .start ⟨.empty, some tenant⟩ 2 2 ()
    let q : Webhook.Query := ⟨Signature.compute ["secret", "1700000000", "n1"], "1700000000", "n1", none, none, none⟩
    (g.handler "wx1").2 = .ok tenant ∧ q.isSigned tenant = true ∧
      ∃ ciphertext, Cipher.encrypt Cipher.Key.ascending.first [255] tenant.encodingKey "wx1" = .ok ciphertext ∧
        let envelope : Inbound.Envelope := ⟨"gh_tenant", ciphertext⟩
        g.handle Platform.unreachable 0 1700000001 "wx1" (q.encrypted tenant ciphertext) (some "text/xml")
            (envelope.write (.ofContentType (some "text/xml"))) =
          g.handle Platform.unreachable 0 1700000001 "wx1" q (some "text/xml") [255] := by
  intro tenant g q
  have found : (g.handler "wx1").2 = .ok tenant := by cbv
  have readable : Cipher.Key.decode tenant.encodingKey = .ok .ascending := by cbv
  have signed : q.isSigned tenant = true := Signature.verify_iff.2 rfl
  have small : ([255] : Bytes).length < 2 ^ 32 := by decide
  obtain ⟨ciphertext, encrypted, _, written, _⟩ := handle_encrypted Platform.unreachable 0 1700000001
    (some "text/xml") found readable (q := q) rfl Cipher.Key.ascending.first "wx1" small
  exact ⟨found, signed, ciphertext, encrypted, written "gh_tenant"⟩

end Gateway
end ReplyGateway
