import Mathlib
import ReplyGateway.Bytes

namespace ReplyGateway.Bytes

theorem ofString_ofList (cs : List Char) : ofString (String.ofList cs) = cs.flatMap String.utf8EncodeChar := by
  simp [ofString, String.toByteArray_ofList, List.utf8Encode]

/-- The character whose code is a byte. -/
def toChar (x : UInt8) : Char := Char.ofNat x.toNat

theorem toNat_toChar (x : UInt8) : (toChar x).toNat = x.toNat := by
  have small : x.toNat < 0xD800 := by have := x.toNat_lt; omega
  rw [toChar, Char.ofNat, dif_pos (Or.inl small)]
  rfl

theorem utf8EncodeChar_toChar {x : UInt8} (ascii : x.toNat < 128) : String.utf8EncodeChar (toChar x) = [x] := by
  have code : (toChar x).val.toNat = x.toNat := toNat_toChar x
  have one : (toChar x).utf8Size = 1 := by
    rw [Char.utf8Size_eq_one_iff, UInt32.le_iff_toNat_le, code]
    exact Nat.le_of_lt_succ ascii
  have byte : (toChar x).val.toUInt8 = x := by
    apply UInt8.toNat.inj
    rw [UInt32.toNat_toUInt8, code]
    omega
  rw [String.utf8EncodeChar_eq_singleton one, byte]

/-- A text of ASCII characters has the codes of its characters as its bytes. -/
theorem ofString_ofAscii {b : Bytes} (ascii : ∀ x ∈ b, x.toNat < 128) :
    ofString (String.ofList (b.map toChar)) = b := by
  rw [ofString_ofList, List.flatMap_map]
  induction b with
  | nil => rfl
  | cons x rest ih =>
    rw [List.flatMap_cons, utf8EncodeChar_toChar (ascii x (by simp)), ih fun y mem => ascii y (by simp [mem])]
    rfl

theorem utf8EncodeChar_of_lt {c : Char} (ascii : c.toNat < 128) :
    String.utf8EncodeChar c = [UInt8.ofNat c.toNat] := by
  have one : c.val.toNat ≤ 127 := Nat.le_of_lt_succ ascii
  rw [String.utf8EncodeChar]
  exact if_pos one

/-- A character beyond ASCII has no byte of ASCII. -/
theorem le_toNat_of_mem_utf8EncodeChar {c : Char} (beyond : 128 ≤ c.toNat) {x : UInt8}
    (mem : x ∈ String.utf8EncodeChar c) : 128 ≤ x.toNat := by
  have high : ¬ c.val.toNat ≤ 127 := Nat.not_le.2 beyond
  have byte {n : Nat} (low : 128 ≤ n) (small : n < 256) : 128 ≤ (UInt8.ofNat n).toNat := by
    rw [UInt8.toNat_ofNat_of_lt' small]
    exact low
  revert mem
  fun_cases String.utf8EncodeChar c with
  | case1 => contradiction
  | case2 =>
    intro mem
    simp only [List.mem_cons, List.not_mem_nil, or_false] at mem
    rcases mem with rfl | rfl <;> exact byte (by omega) (by omega)
  | case3 =>
    intro mem
    simp only [List.mem_cons, List.not_mem_nil, or_false] at mem
    rcases mem with rfl | rfl | rfl <;> exact byte (by omega) (by omega)
  | case4 =>
    intro mem
    simp only [List.mem_cons, List.not_mem_nil, or_false] at mem
    rcases mem with rfl | rfl | rfl | rfl <;> exact byte (by omega) (by omega)

theorem ofString_of_ascii {s : String} (ascii : ∀ c ∈ s.toList, c.toNat < 128) :
    ofString s = s.toList.map fun c => UInt8.ofNat c.toNat := by
  obtain ⟨cs, rfl⟩ : ∃ cs, s = String.ofList cs := ⟨s.toList, String.ofList_toList.symm⟩
  rw [String.toList_ofList] at ascii ⊢
  rw [ofString_ofList]
  induction cs with
  | nil => rfl
  | cons c rest ih =>
    rw [List.flatMap_cons, utf8EncodeChar_of_lt (ascii c (by simp)), ih fun d mem => ascii d (by simp [mem])]
    rfl

/-- A text whose bytes are ASCII has no other characters. -/
theorem ascii_of_ofString {s : String} (ascii : ∀ x ∈ ofString s, x.toNat < 128) : ∀ c ∈ s.toList, c.toNat < 128 := by
  intro c mem
  by_contra beyond
  rw [← String.ofList_toList (s := s), ofString_ofList] at ascii
  obtain ⟨x, byte⟩ := List.exists_mem_of_ne_nil (String.utf8EncodeChar c) (by simp)
  have low := ascii x (List.mem_flatMap.2 ⟨c, mem, byte⟩)
  have high := le_toNat_of_mem_utf8EncodeChar (Nat.not_lt.1 beyond) byte
  omega

end ReplyGateway.Bytes
