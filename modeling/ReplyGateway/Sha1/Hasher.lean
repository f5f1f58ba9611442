import ReplyGateway.Sha1

namespace ReplyGateway.Sha1

/-- SHA-1 of a message that arrives in pieces, as far as it has arrived: the chaining words after its whole blocks,
the bytes of the block that is not whole yet, last first, and the number of all bytes. -/
structure Hasher where
  chain : Chain
  pending : Bytes
  size : Nat

namespace Hasher

def start : Hasher := ⟨.start, [], 0⟩

def feed (s : Hasher) (x : UInt8) : Hasher :=
  if s.size % 64 = 63 then ⟨s.chain.compress (x :: s.pending).reverse, [], s.size + 1⟩
  else ⟨s.chain, x :: s.pending, s.size + 1⟩

def update (s : Hasher) (piece : Bytes) : Hasher := piece.foldl feed s

/-- The digest of all that has been seen. -/
def finish (s : Hasher) : Bytes := (s.update (padding s.size)).chain.toBytes

/-- Two pieces in a row leave the same state as their concatenation. -/
theorem update_append (s : Hasher) (p q : Bytes) : s.update (p ++ q) = (s.update p).update q := by
  simp [update]

@[simp] theorem length_finish (s : Hasher) : s.finish.length = 20 := by simp [finish]

end Hasher
end ReplyGateway.Sha1
