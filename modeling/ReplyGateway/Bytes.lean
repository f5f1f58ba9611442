namespace ReplyGateway

abbrev Bytes := List UInt8

namespace Bytes

/-- The bytes that spell a text in UTF-8. -/
def ofString (s : String) : Bytes := s.toByteArray.data.toList

/-- The text that the bytes spell; `none` unless they are well-formed UTF-8. -/
def text? (b : Bytes) : Option String := String.fromUTF8? ⟨b.toArray⟩

/-- Reading the bytes of a text gives the text back. -/
theorem text?_ofString (s : String) : text? (ofString s) = some s := by
  simp [text?, ofString, String.fromUTF8?, s.isValidUTF8, String.fromUTF8]

/-- Lower-case hexadecimal digits, two for each byte. -/
def hexDigits (b : Bytes) : List Char :=
  b.flatMap fun x => [Nat.digitChar (x.toNat / 16), Nat.digitChar (x.toNat % 16)]

def toHex (b : Bytes) : String := String.ofList b.hexDigits

/-- The `width` low-order bytes of `n`, most significant first. -/
def bigEndian : Nat → Nat → Bytes
  | 0, _ => []
  | width + 1, n => UInt8.ofNat (n >>> (8 * width)) :: bigEndian width n

/-- The number that the bytes spell, most significant first. -/
def toNat (b : Bytes) : Nat := b.foldl (fun n x => n * 256 + x.toNat) 0

/-- Byte by byte exclusive or, as long as the shorter of the two. -/
def xor (a b : Bytes) : Bytes := List.zipWith (· ^^^ ·) a b

/-- The bytes in blocks of `size`; only the last block may be shorter. -/
def blocks (size : Nat) (b : Bytes) : List Bytes :=
  if _ : b = [] ∨ size = 0 then [] else b.take size :: blocks size (b.drop size)
termination_by b.length
decreasing_by
  rename_i h
  have : 0 < b.length := List.length_pos_iff.2 fun e => h (.inl e)
  have : 0 < size := Nat.pos_of_ne_zero fun e => h (.inr e)
  simp only [List.length_drop]
  omega

@[simp] theorem blocks_nil (size : Nat) : blocks size [] = [] := by rw [blocks]; simp

/-- Whole blocks in front stay as they are. -/
theorem blocks_append {size : Nat} {block : Bytes} (pos : 0 < size) (full : block.length = size) (rest : Bytes) :
    blocks size (block ++ rest) = block :: blocks size rest := by
  have : block ≠ [] := List.ne_nil_of_length_pos (full ▸ pos)
  rw [blocks, dif_neg (by simp [this, Nat.ne_of_gt pos])]
  simp [← full]

@[simp] theorem length_bigEndian (width n : Nat) : (bigEndian width n).length = width := by
  induction width with
  | zero => rfl
  | succ width ih => simp [bigEndian, ih]

theorem foldl_bigEndian (width n start : Nat) :
    (bigEndian width n).foldl (fun n x => n * 256 + x.toNat) start =
      start * Nat.pow 256 width + n % Nat.pow 256 width := by
  induction width generalizing start with
  | zero => simp [bigEndian, Nat.mod_one]
  | succ width ih =>
    have low : n >>> (8 * width) = n / Nat.pow 256 width := by
      rw [Nat.shiftRight_eq_div_pow, Nat.pow_mul]
      rfl
    have byte : (UInt8.ofNat (n >>> (8 * width))).toNat = n / Nat.pow 256 width % 256 := by simp [low]
    have power : Nat.pow 256 (width + 1) = Nat.pow 256 width * 256 := rfl
    rw [bigEndian, List.foldl_cons, ih, byte, power, Nat.mod_mul, Nat.add_mul, Nat.mul_assoc,
      Nat.mul_comm 256, Nat.mul_comm (Nat.pow 256 width) (n / Nat.pow 256 width % 256)]
    omega

/-- A number that fits into some bytes reads back from them. -/
theorem toNat_bigEndian {width n : Nat} (h : n < Nat.pow 256 width) : toNat (bigEndian width n) = n := by
  rw [toNat, foldl_bigEndian, Nat.mod_eq_of_lt h, Nat.zero_mul, Nat.zero_add]

end Bytes
end ReplyGateway
