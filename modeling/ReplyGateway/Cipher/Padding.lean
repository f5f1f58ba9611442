import ReplyGateway.Cipher.Fault

namespace ReplyGateway.Cipher

/-- The greatest padding that is taken off. -/
def maxPad : Nat := 32

/-- The number of bytes that fill a plaintext of `size` bytes up to the next whole block. -/
def padSize (size : Nat) : Nat := blockSize - size % blockSize

theorem padSize_bounds (size : Nat) : 1 ≤ padSize size ∧ padSize size ≤ blockSize := by
  unfold padSize blockSize; omega

def padBytes (n : Nat) : Bytes := List.replicate n (UInt8.ofNat n)

@[simp] theorem length_padBytes (n : Nat) : (padBytes n).length = n := by simp [padBytes]

/-- Pads a plaintext to whole blocks with one to sixteen bytes, each with their number as its value. -/
def pad (b : Bytes) : Bytes := b ++ padBytes (padSize b.length)

theorem length_pad (b : Bytes) : (pad b).length = blockSize * (b.length / blockSize + 1) := by
  simp [pad, padSize, blockSize]; omega

/-- Takes the padding off; `none` unless it is one to thirty-two bytes that all give their number. -/
def unpad? (b : Bytes) : Option Bytes :=
  match b.getLast? with
  | none => none
  | some last =>
    let n := last.toNat
    if n = 0 ∨ maxPad < n ∨ b.length < n then none
    else if b.drop (b.length - n) = List.replicate n last then some (b.take (b.length - n)) else none

/-- Padding is taken off also if it is longer than it need be, up to thirty-two bytes. -/
theorem unpad?_append_padBytes {n : Nat} (pos : 1 ≤ n) (small : n ≤ maxPad) (b : Bytes) :
    unpad? (b ++ padBytes n) = some b := by
  unfold maxPad at small
  have value : (UInt8.ofNat n).toNat = n := by simp; omega
  have last : (b ++ padBytes n).getLast? = some (UInt8.ofNat n) := by
    simp [List.getLast?_append, padBytes, List.getLast?_replicate, Nat.ne_of_gt pos]
  have size : (b ++ padBytes n).length - n = b.length := by simp
  have bounds : ¬(n = 0 ∨ maxPad < n ∨ (b ++ padBytes n).length < n) := by simp [maxPad]; omega
  simp only [unpad?, last, value, size, if_neg bounds, List.drop_left, List.take_left]
  exact if_pos rfl

/-- Padding can be taken off again. -/
theorem unpad?_pad (b : Bytes) : unpad? (pad b) = some b :=
  have bounds := padSize_bounds b.length
  unpad?_append_padBytes bounds.1 (Nat.le_trans bounds.2 (by decide)) b

end ReplyGateway.Cipher
