import ReplyGateway.Sha1.Hasher

namespace ReplyGateway.Signature

/-- The parts as bytes, in ascending order of the bytes. -/
def sortedParts (parts : List String) : List Bytes :=
  (parts.map Bytes.ofString).mergeSort fun a b => decide (a ≤ b)

/-- The signature over the parts: in the order of their UTF-8 bytes, hashed one after another with SHA-1, and written
in lower-case hexadecimal. Their order does not matter, how often each occurs does. -/
def compute (parts : List String) : String :=
  ((sortedParts parts).foldl Sha1.Hasher.update .start).finish.toHex

/-- Whether the given signature is the one over the parts, letter by letter. -/
def verify (signature : String) (parts : List String) : Bool := signature == compute parts

theorem verify_iff {signature : String} {parts : List String} :
    verify signature parts = true ↔ signature = compute parts := by simp [verify]

end ReplyGateway.Signature
