import Mathlib
import ReplyGateway.Base64
import ReplyGateway.Proofs.Utf8
import ReplyGateway.Text.Blank

namespace ReplyGateway.Base64

/-- Whether Base64 text may contain a byte. -/
def isLetter (x : UInt8) : Bool := (sextet? x).isSome || x == pad

theorem isLetter_symbol (n : Nat) : isLetter (symbol n) = true := by
  by_cases small : n < 64
  · simp [isLetter, sextet?_symbol small]
  · have last : symbol n = 47 := by
      rw [symbol, if_neg (by omega), if_neg (by omega), if_neg (by omega), if_neg (by omega)]
      rfl
    rw [last]
    rfl

theorem isLetter_of_mem_encode {b : Bytes} {x : UInt8} (member : x ∈ encode b) : isLetter x = true := by
  induction b using encode.induct with
  | case1 => cases member
  | case2 a =>
    simp only [encode, List.mem_cons, List.not_mem_nil, or_false] at member
    rcases member with rfl | rfl | rfl | rfl <;> first | exact isLetter_symbol _ | rfl
  | case3 a b =>
    simp only [encode, List.mem_cons, List.not_mem_nil, or_false] at member
    rcases member with rfl | rfl | rfl | rfl <;> first | exact isLetter_symbol _ | rfl
  | case4 a b c rest ih =>
    simp only [encode, List.mem_cons] at member
    rcases member with rfl | rfl | rfl | rfl | member
    iterate 4 exact isLetter_symbol _
    exact ih member

/-- What is true of all letters is decided byte by byte. -/
theorem forall_isLetter {P : UInt8 → Prop} (h : ∀ n < 256, isLetter (UInt8.ofNat n) = true → P (UInt8.ofNat n))
    (x : UInt8) (letter : isLetter x = true) : P x := by
  have := h x.toNat x.toNat_lt
  rw [UInt8.ofNat_toNat] at this
  exact this letter

theorem toNat_lt_of_isLetter {x : UInt8} (letter : isLetter x = true) : x.toNat < 128 :=
  forall_isLetter (P := fun x => x.toNat < 128) (by decide +kernel) x letter

theorem not_isBlank_of_isLetter {x : UInt8} (letter : isLetter x = true) : isBlank (Bytes.toChar x) = false :=
  forall_isLetter (P := fun x => isBlank (Bytes.toChar x) = false) (by decide +kernel) x letter

theorem ofString_encodeText (b : Bytes) : Bytes.ofString (encodeText b) = encode b :=
  Bytes.ofString_ofAscii fun _ member => toNat_lt_of_isLetter (isLetter_of_mem_encode member)

/-- What is true of all letters is true of the characters of a text. -/
theorem forall_mem_encodeText {P : Char → Prop} (h : ∀ x, isLetter x = true → P (Bytes.toChar x)) (b : Bytes) :
    ∀ c ∈ (encodeText b).toList, P c := by
  intro c member
  obtain ⟨x, mem, rfl⟩ := List.mem_map.1 (by simpa [encodeText] using member)
  exact h x (isLetter_of_mem_encode mem)

/-- The text of bytes has no blanks that trimming could take away. -/
theorem trim_encodeText (b : Bytes) : trim (encodeText b) = encodeText b := by
  have none : ∀ c ∈ (encodeText b).toList, isBlank c = false :=
    forall_mem_encodeText (fun _ letter => not_isBlank_of_isLetter letter) b
  rw [trim, trimBoth_of_forall none, String.ofList_toList]

theorem sextet_symbol (offset : Nat) {n : Nat} (small : n < 64) : sextet offset (symbol n) = .ok n := by
  simp [sextet, sextet?_symbol small]

/-- A symbol is never mistaken for padding. -/
theorem symbol_ne_pad {n : Nat} (small : n < 64) : symbol n ≠ pad := by
  intro same
  have value := sextet?_symbol small
  rw [same] at value
  cases value

/-- The byte in the low-order bits of a number. -/
theorem ofNat_eq {x : UInt8} {n : Nat} (low : n % 256 = x.toNat) : UInt8.ofNat n = x :=
  UInt8.toNat.inj (by simpa using low)

/-- The bits after the last whole byte that the last symbol spells. -/
def SpareBits.Allow (spare : SpareBits) (bits : Nat) : Prop := spare = .mustBeZero → bits = 0

/-- Symbols and padding that spell bytes, in groups of four. Only the last group may have padding. -/
inductive Spells (spare : SpareBits) : Bytes → Bytes → Prop
  | nil : Spells spare [] []
  | one {a b : Nat} : a < 64 → b < 64 → spare.Allow (b % 16) →
      Spells spare [symbol a, symbol b, pad, pad] [UInt8.ofNat ((a * 64 + b) / 16)]
  | two {a b c : Nat} : a < 64 → b < 64 → c < 64 → spare.Allow (c % 4) →
      Spells spare [symbol a, symbol b, symbol c, pad]
        [UInt8.ofNat (((a * 64 + b) * 64 + c) / 1024), UInt8.ofNat (((a * 64 + b) * 64 + c) / 4)]
  | three {a b c d : Nat} {text bytes : Bytes} : a < 64 → b < 64 → c < 64 → d < 64 → Spells spare text bytes →
      Spells spare (symbol a :: symbol b :: symbol c :: symbol d :: text)
        (UInt8.ofNat ((((a * 64 + b) * 64 + c) * 64 + d) / 65536) ::
          UInt8.ofNat ((((a * 64 + b) * 64 + c) * 64 + d) / 256) ::
          UInt8.ofNat (((a * 64 + b) * 64 + c) * 64 + d) :: bytes)

variable {spare : SpareBits} {offset : Nat}

/-- A last group is read if its symbols and padding fill it and its spare bits are allowed. -/
theorem decodeLast_eq_ok {pads : Nat} {symbols : List Nat} {group : Bytes}
    (read : lastGroup offset group = .ok (symbols, pads)) (two : 2 ≤ symbols.length)
    (full : (symbols.length + pads) % 4 = 0) (allow : spare.Allow (groupBytes symbols).2) :
    decodeLast spare offset group = .ok (groupBytes symbols).1 := by
  have allowed : ¬(spare = .mustBeZero ∧ (groupBytes symbols).2 ≠ 0) := fun ⟨strict, set⟩ => set (allow strict)
  simp only [decodeLast, read, bind, Except.bind, if_neg (Nat.not_lt.2 two), full, ne_eq, not_true_eq_false, if_false]
  exact if_neg allowed

theorem Spells.decodeGroups_eq {text b : Bytes} (spells : Spells spare text b) (offset : Nat) (done : Bytes) :
    decodeGroups spare offset done text = .ok (done.reverse ++ b) := by
  induction spells generalizing offset done with
  | nil => simp [decodeGroups]
  | @one a b smallA smallB allow =>
    have read : lastGroup offset [symbol a, symbol b, pad, pad] = .ok ([a, b], 2) := by
      simp [lastGroup, sextet_symbol _ smallA, sextet_symbol _ smallB, bind, Except.bind]
    have spareBits : (a * 64 + b) % 16 = b % 16 := by omega
    have allowed : spare.Allow (groupBytes [a, b]).2 := by rwa [groupBytes, spareBits]
    have last := decodeLast_eq_ok read (by simp) (by simp) allowed
    simp only [decodeGroups, last, groupBytes, bind, Except.bind, pure, Except.pure]
  | @two a b c smallA smallB smallC allow =>
    have read : lastGroup offset [symbol a, symbol b, symbol c, pad] = .ok ([a, b, c], 1) := by
      simp [lastGroup, sextet_symbol _ smallA, sextet_symbol _ smallB, sextet_symbol _ smallC, symbol_ne_pad smallC,
        bind, Except.bind]
    have spareBits : ((a * 64 + b) * 64 + c) % 4 = c % 4 := by omega
    have allowed : spare.Allow (groupBytes [a, b, c]).2 := by rwa [groupBytes, spareBits]
    have last := decodeLast_eq_ok read (by simp) (by simp) allowed
    simp only [decodeGroups, last, groupBytes, bind, Except.bind, pure, Except.pure]
  | @three a b c d text bytes smallA smallB smallC smallD rest ih =>
    cases text with
    | nil =>
      cases rest
      have read : lastGroup offset [symbol a, symbol b, symbol c, symbol d] = .ok ([a, b, c, d], 0) := by
        simp [lastGroup, sextet_symbol _ smallA, sextet_symbol _ smallB, sextet_symbol _ smallC,
          sextet_symbol _ smallD, symbol_ne_pad smallC, symbol_ne_pad smallD, bind, Except.bind]
      have allowed : spare.Allow (groupBytes [a, b, c, d]).2 := fun _ => rfl
      have last := decodeLast_eq_ok read (by simp) (by simp) allowed
      simp only [decodeGroups, last, groupBytes, bind, Except.bind, pure, Except.pure]
    | cons e tail =>
      simp only [decodeGroups, sextet_symbol _ smallA, sextet_symbol _ smallB, sextet_symbol _ smallC,
        sextet_symbol _ smallD, bind, Except.bind]
      rw [ih]
      simp

theorem Spells.length_mod {text b : Bytes} (spells : Spells spare text b) : text.length % 4 = 0 := by
  induction spells with
  | three _ _ _ _ _ ih =>
    simp only [List.length_cons]
    omega
  | _ => simp

/-- Symbols and padding that spell bytes are read as these bytes. -/
theorem Spells.decode_eq {text b : Bytes} (spells : Spells spare text b) : decode spare text = .ok b := by
  have whole : text.length % 4 ≠ 1 := by rw [spells.length_mod]; decide
  rw [decode, if_neg whole]
  exact spells.decodeGroups_eq 0 []

/-- What bytes are written as spells them, with no spare bit set. -/
theorem spells_encode (spare : SpareBits) (b : Bytes) : Spells spare (encode b) b := by
  induction b using encode.induct with
  | case1 => exact .nil
  | case2 a =>
    have bound := a.toNat_lt
    obtain ⟨n, number⟩ : ∃ n, a.toNat * 16 = n := ⟨_, rfl⟩
    have spells : Spells spare _ _ :=
      .one (a := n / 64) (b := n % 64) (by omega) (by omega) fun _ => by omega
    have byte : UInt8.ofNat ((n / 64 * 64 + n % 64) / 16) = a := ofNat_eq (by omega)
    rw [byte] at spells
    rwa [encode, number]
  | case3 a b =>
    have boundA := a.toNat_lt
    have boundB := b.toNat_lt
    obtain ⟨n, number⟩ : ∃ n, (a.toNat * 256 + b.toNat) * 4 = n := ⟨_, rfl⟩
    have spells : Spells spare _ _ :=
      .two (a := n / 4096) (b := n / 64 % 64) (c := n % 64) (by omega) (by omega) (by omega) fun _ => by omega
    have whole : (n / 4096 * 64 + n / 64 % 64) * 64 + n % 64 = n := by omega
    have byteA : UInt8.ofNat (n / 1024) = a := ofNat_eq (by omega)
    have byteB : UInt8.ofNat (n / 4) = b := ofNat_eq (by omega)
    rw [whole, byteA, byteB] at spells
    rwa [encode, number]
  | case4 a b c rest ih =>
    have boundA := a.toNat_lt
    have boundB := b.toNat_lt
    have boundC := c.toNat_lt
    obtain ⟨n, number⟩ : ∃ n, (a.toNat * 256 + b.toNat) * 256 + c.toNat = n := ⟨_, rfl⟩
    have spells : Spells spare _ _ :=
      .three (a := n / 262144) (b := n / 4096 % 64) (c := n / 64 % 64) (d := n % 64) (by omega) (by omega) (by omega)
        (by omega) ih
    have whole : ((n / 262144 * 64 + n / 4096 % 64) * 64 + n / 64 % 64) * 64 + n % 64 = n := by omega
    have byteA : UInt8.ofNat (n / 65536) = a := ofNat_eq (by omega)
    have byteB : UInt8.ofNat (n / 256) = b := ofNat_eq (by omega)
    have byteC : UInt8.ofNat n = c := ofNat_eq (by omega)
    rw [whole, byteA, byteB, byteC] at spells
    rwa [encode, number]

/-- Reading undoes writing, whether or not spare bits have to be zero. -/
theorem decode_encode (spare : SpareBits) (b : Bytes) : decode spare (encode b) = .ok b :=
  (spells_encode spare b).decode_eq

end ReplyGateway.Base64
