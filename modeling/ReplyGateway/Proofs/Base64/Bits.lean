import Mathlib
import ReplyGateway.Proofs.Base64.Canonical

namespace ReplyGateway

/-- The low-order bits of a number, most significant first. -/
def bitsOf : Nat → Nat → List Bool
  | 0, _ => []
  | width + 1, n => n.testBit width :: bitsOf width n

@[simp] theorem length_bitsOf (width n : Nat) : (bitsOf width n).length = width := by
  induction width with
  | zero => rfl
  | succ width ih => rw [bitsOf, List.length_cons, ih]

/-- The bits of a number fall into high-order and low-order ones. -/
theorem bitsOf_add (high low n : Nat) : bitsOf (high + low) n = bitsOf high (n / 2 ^ low) ++ bitsOf low n := by
  induction high with
  | zero => simp [bitsOf]
  | succ high ih =>
    rw [Nat.succ_add, bitsOf, bitsOf, ih, Nat.testBit_div_two_pow, List.cons_append]

theorem bitsOf_mod {width bound : Nat} (within : width ≤ bound) (n : Nat) :
    bitsOf width (n % 2 ^ bound) = bitsOf width n := by
  induction width with
  | zero => rfl
  | succ width ih =>
    have bit : (n % 2 ^ bound).testBit width = n.testBit width := by
      rw [Nat.testBit_mod_two_pow, decide_eq_true (by omega), Bool.true_and]
    rw [bitsOf, bitsOf, ih (by omega), bit]

/-- Two numbers in a row are one with the second in its low-order bits. -/
theorem bitsOf_append {high low m n : Nat} (small : n < 2 ^ low) :
    bitsOf high m ++ bitsOf low n = bitsOf (high + low) (m * 2 ^ low + n) := by
  have quotient : (m * 2 ^ low + n) / 2 ^ low = m := by
    rw [Nat.mul_comm, Nat.mul_add_div (Nat.two_pow_pos low), Nat.div_eq_of_lt small, Nat.add_zero]
  have rest : (m * 2 ^ low + n) % 2 ^ low = n := by rw [Nat.mul_add_mod_self_right, Nat.mod_eq_of_lt small]
  rw [bitsOf_add, quotient, ← bitsOf_mod le_rfl (m * 2 ^ low + n), rest]

/-- A number is known by its bits if they are enough for it. -/
theorem bitsOf_inj {width m n : Nat} (smallM : m < 2 ^ width) (smallN : n < 2 ^ width)
    (same : bitsOf width m = bitsOf width n) : m = n := by
  have bits : ∀ low ≤ width, bitsOf low m = bitsOf low n → ∀ i < low, m.testBit i = n.testBit i := by
    intro low _ equal i lt
    induction low with
    | zero => omega
    | succ low ih =>
      obtain ⟨first, rest⟩ := List.cons_eq_cons.1 equal
      rcases Nat.lt_succ_iff_lt_or_eq.1 lt with lower | rfl
      · exact ih (by omega) rest lower
      · exact first
  refine Nat.eq_of_testBit_eq fun i => ?_
  by_cases low : i < width
  · exact bits width le_rfl same i low
  · have high : 2 ^ width ≤ 2 ^ i := Nat.pow_le_pow_right (by decide) (by omega)
    rw [Nat.testBit_lt_two_pow (by omega), Nat.testBit_lt_two_pow (by omega)]

/-- Codes of one length can be told apart in a row. -/
theorem eq_of_flatMap_eq {α β : Type} (code : α → List β) {width : Nat} (length : ∀ a, (code a).length = width)
    {s t : List α} (inj : ∀ a ∈ s, ∀ b ∈ t, code a = code b → a = b) (size : s.length = t.length)
    (same : s.flatMap code = t.flatMap code) : s = t := by
  induction s generalizing t with
  | nil => exact (List.length_eq_zero_iff.1 size.symm).symm
  | cons a s ih =>
    cases t with
    | nil => cases size
    | cons b t =>
      rw [List.flatMap_cons, List.flatMap_cons] at same
      obtain ⟨first, rest⟩ := List.append_inj same (by rw [length, length])
      rw [inj a (by simp) b (by simp) first,
        ih (fun x memX y memY => inj x (by simp [memX]) y (by simp [memY])) (by simpa using size) rest]

namespace Bytes

/-- Eight bits for each byte, most significant first. -/
def bits (b : Bytes) : List Bool := b.flatMap fun x => bitsOf 8 x.toNat

theorem bits_cons (x : UInt8) (b : Bytes) : bits (x :: b) = bitsOf 8 x.toNat ++ bits b := rfl

theorem length_bits (b : Bytes) : b.bits.length = 8 * b.length := by
  simp [bits, Nat.mul_comm]

theorem bits_inj {b c : Bytes} (same : b.bits = c.bits) : b = c := by
  have size := congrArg List.length same
  rw [length_bits, length_bits] at size
  refine eq_of_flatMap_eq (fun x : UInt8 => bitsOf 8 x.toNat) (fun x => length_bitsOf 8 x.toNat)
    (fun x _ y _ equal => ?_) (by omega) same
  have same : x.toNat = y.toNat := bitsOf_inj x.toNat_lt y.toNat_lt equal
  exact UInt8.toNat.inj same

theorem bits_ofNat_cons (n : Nat) (b : Bytes) : bits (UInt8.ofNat n :: b) = bitsOf 8 n ++ bits b := by
  rw [bits_cons, UInt8.toNat_ofNat', bitsOf_mod le_rfl]

end Bytes

namespace Base64

/-- The bits that a symbol spells. Padding spells none. -/
def symbolBits (x : UInt8) : List Bool := (sextet? x).elim [] (bitsOf 6)

theorem symbolBits_symbol {n : Nat} (small : n < 64) : symbolBits (symbol n) = bitsOf 6 n := by
  rw [symbolBits, sextet?_symbol small]
  rfl

theorem symbolBits_pad : symbolBits pad = [] := rfl

/-- The bits that the symbols of a text spell, six each, are the bits of the bytes that it is read as, eight each, and
then the spare bits. -/
theorem Spells.bits_eq {spare : SpareBits} {text b : Bytes} (spells : Spells spare text b) :
    b.bits = (text.flatMap symbolBits).take (8 * b.length) := by
  induction spells with
  | nil => rfl
  | @one a b smallA smallB _ =>
    have symbols : bitsOf 6 a ++ bitsOf 6 b = bitsOf (8 + 4) (a * 64 + b) := bitsOf_append smallB
    have written : [symbol a, symbol b, pad, pad].flatMap symbolBits = bitsOf 6 a ++ bitsOf 6 b := by
      simp [symbolBits_symbol smallA, symbolBits_symbol smallB, symbolBits_pad]
    rw [written, symbols, bitsOf_add, List.take_left' (by simp), Bytes.bits_ofNat_cons]
    exact List.append_nil _
  | @two a b c smallA smallB smallC _ =>
    obtain ⟨n, number⟩ : ∃ n, (a * 64 + b) * 64 + c = n := ⟨_, rfl⟩
    have symbols : bitsOf 6 a ++ bitsOf 6 b ++ bitsOf 6 c = bitsOf (8 + 8 + 2) n := by
      rw [bitsOf_append smallB, bitsOf_append smallC]
      exact congrArg _ number
    have written : [symbol a, symbol b, symbol c, pad].flatMap symbolBits = bitsOf 6 a ++ bitsOf 6 b ++ bitsOf 6 c := by
      simp [symbolBits_symbol smallA, symbolBits_symbol smallB, symbolBits_symbol smallC, symbolBits_pad]
    rw [written, symbols, bitsOf_add, List.take_left' (by simp), bitsOf_add, number, Nat.div_div_eq_div_mul,
      Bytes.bits_ofNat_cons, Bytes.bits_ofNat_cons]
    exact congrArg _ (List.append_nil _)
  | @three a b c d text bytes smallA smallB smallC smallD _ ih =>
    obtain ⟨n, number⟩ : ∃ n, ((a * 64 + b) * 64 + c) * 64 + d = n := ⟨_, rfl⟩
    have symbols : bitsOf 6 a ++ bitsOf 6 b ++ bitsOf 6 c ++ bitsOf 6 d = bitsOf (8 + 8 + 8) n := by
      rw [bitsOf_append smallB, bitsOf_append smallC, bitsOf_append smallD]
      exact congrArg _ number
    have written : (symbol a :: symbol b :: symbol c :: symbol d :: text).flatMap symbolBits =
        bitsOf (8 + 8 + 8) n ++ text.flatMap symbolBits := by
      rw [← symbols]
      simp [symbolBits_symbol smallA, symbolBits_symbol smallB, symbolBits_symbol smallC, symbolBits_symbol smallD]
    have size : 8 * (bytes.length + 1 + 1 + 1) = (bitsOf (8 + 8 + 8) n).length + 8 * bytes.length := by
      rw [length_bitsOf]
      omega
    have octets : bitsOf (8 + 8 + 8) n = bitsOf 8 (n / 65536) ++ (bitsOf 8 (n / 256) ++ bitsOf 8 n) := by
      rw [bitsOf_add, bitsOf_add, Nat.div_div_eq_div_mul, List.append_assoc]
      rfl
    rw [written, List.length_cons, List.length_cons, List.length_cons, size, List.take_length_add_append, ← ih, number,
      octets]
    simp only [Bytes.bits_ofNat_cons, List.append_assoc]

section Alphabet

/-- The standard alphabet, in the order of the numbers that its letters spell. -/
def alphabet : List Char := "ABCDEFGHIJKLMNOPQRSTUVWXYZabcdefghijklmnopqrstuvwxyz0123456789+/".toList

/-- The six bits that a letter spells. -/
def letterBits (c : Char) : List Bool := bitsOf 6 (alphabet.idxOf c)

/-- The alphabet is the symbols in the order of their values. -/
theorem alphabet_eq : alphabet = (List.range 64).map fun n => Bytes.toChar (symbol n) := by decide +kernel

theorem idxOf_toChar_symbol {n : Nat} (small : n < 64) : alphabet.idxOf (Bytes.toChar (symbol n)) = n := by
  have all : ∀ n < 64, alphabet.idxOf (Bytes.toChar (symbol n)) = n := by decide +kernel
  exact all n small

theorem exists_symbol_of_mem_alphabet {c : Char} (mem : c ∈ alphabet) : ∃ n < 64, c = Bytes.toChar (symbol n) := by
  rw [alphabet_eq] at mem
  obtain ⟨n, small, rfl⟩ := List.mem_map.1 mem
  exact ⟨n, List.mem_range.1 small, rfl⟩

theorem toChar_symbol_mem_alphabet {n : Nat} (small : n < 64) : Bytes.toChar (symbol n) ∈ alphabet := by
  rw [alphabet_eq]
  exact List.mem_map.2 ⟨n, List.mem_range.2 small, rfl⟩

theorem ofNat_toNat_toChar (x : UInt8) : UInt8.ofNat (Bytes.toChar x).toNat = x := by
  rw [Bytes.toNat_toChar, UInt8.ofNat_toNat]

/-- An ASCII character is a letter if its byte is a symbol. -/
theorem mem_alphabet_iff {c : Char} (ascii : c.toNat < 128) :
    c ∈ alphabet ↔ (sextet? (UInt8.ofNat c.toNat)).isSome = true := by
  constructor
  · intro mem
    obtain ⟨n, small, rfl⟩ := exists_symbol_of_mem_alphabet mem
    rw [ofNat_toNat_toChar, sextet?_symbol small]
    rfl
  · intro value
    obtain ⟨n, found⟩ := Option.isSome_iff_exists.1 value
    obtain ⟨small, same⟩ := symbol_of_sextet? found
    have code : (Bytes.toChar (symbol n)).toNat = c.toNat := by
      rw [same, Bytes.toNat_toChar, UInt8.toNat_ofNat_of_lt' (by omega : c.toNat < 256)]
    rw [← Char.toNat_inj.1 code]
    exact toChar_symbol_mem_alphabet small

theorem toNat_lt_of_mem_alphabet {c : Char} (mem : c ∈ alphabet) : c.toNat < 128 := by
  obtain ⟨n, _, rfl⟩ := exists_symbol_of_mem_alphabet mem
  rw [Bytes.toNat_toChar]
  exact toNat_lt_of_isLetter (isLetter_symbol n)

theorem symbolBits_ofNat {c : Char} (mem : c ∈ alphabet) : symbolBits (UInt8.ofNat c.toNat) = letterBits c := by
  obtain ⟨n, small, rfl⟩ := exists_symbol_of_mem_alphabet mem
  rw [ofNat_toNat_toChar, symbolBits_symbol small, letterBits, idxOf_toChar_symbol small]

theorem letterBits_inj {c d : Char} (memC : c ∈ alphabet) (memD : d ∈ alphabet) (same : letterBits c = letterBits d) :
    c = d := by
  obtain ⟨m, smallM, rfl⟩ := exists_symbol_of_mem_alphabet memC
  obtain ⟨n, smallN, rfl⟩ := exists_symbol_of_mem_alphabet memD
  rw [letterBits, letterBits, idxOf_toChar_symbol smallM, idxOf_toChar_symbol smallN] at same
  rw [bitsOf_inj smallM smallN same]

end Alphabet

end Base64
end ReplyGateway
