import ReplyGateway.Bytes
import ReplyGateway.Text.Digit

namespace ReplyGateway

/-- The code of the percent sign. -/
def percent : UInt8 := 37

/-- The byte that two hexadecimal digits spell. -/
def hexByte? (a b : UInt8) : Option UInt8 := do
  return UInt8.ofNat ((← digit? 16 a.toNat) * 16 + (← digit? 16 b.toNat))

/-- Replaces every percent sign with two hexadecimal digits after it by the byte that they spell. Any other
percent sign stands for itself. -/
def percentDecode : Bytes → Bytes
  | [] => []
  | b :: rest =>
    if b = percent then
      match rest with
      | c :: d :: more =>
        match hexByte? c d with
        | some value => value :: percentDecode more
        | none => b :: percentDecode (c :: d :: more)
      | rest => b :: percentDecode rest
    else b :: percentDecode rest

/-- Bytes without a percent sign stand for themselves. -/
theorem percentDecode_of_forall_ne {b : Bytes} (h : ∀ x ∈ b, x ≠ percent) : percentDecode b = b := by
  induction b with
  | nil => rfl
  | cons x rest ih =>
    rw [percentDecode.eq_def]
    simp only [if_neg (h x (.head _)), ih fun y mem => h y (.tail _ mem)]

end ReplyGateway
