import Mathlib
import ReplyGateway.Proofs.Base64

namespace ReplyGateway.Base64

theorem symbol_of_sextet? {x : UInt8} {n : Nat} (value : sextet? x = some n) : n < 64 ∧ symbol n = x := by
  have all : ∀ m < 256, ∀ n ∈ sextet? (UInt8.ofNat m), n < 64 ∧ symbol n = UInt8.ofNat m := by decide +kernel
  have here := all x.toNat x.toNat_lt
  rw [UInt8.ofNat_toNat] at here
  exact here n value

theorem sextet_eq_ok {offset n : Nat} {x : UInt8} (value : sextet offset x = .ok n) : n < 64 ∧ x = symbol n := by
  unfold sextet at value
  split at value
  · rename_i m found
    obtain rfl := Except.ok.inj value
    obtain ⟨small, same⟩ := symbol_of_sextet? found
    exact ⟨small, same.symm⟩
  · cases value

theorem bind_eq_ok {ε α β : Type} {x : Except ε α} {f : α → Except ε β} {b : β} (h : (x >>= f) = .ok b) :
    ∃ a, x = .ok a ∧ f a = .ok b := by
  cases x with
  | error => cases h
  | ok a => exact ⟨a, rfl, h⟩

/-- What the last group consists of. -/
theorem lastGroup_eq_ok {offset pads : Nat} {group : Bytes} {symbols : List Nat} (small : group.length ≤ 4)
    (read : lastGroup offset group = .ok (symbols, pads)) :
    (∀ n ∈ symbols, n < 64) ∧ group = symbols.map symbol ++ List.replicate pads pad := by
  match group with
  | [] =>
    obtain ⟨rfl, rfl⟩ := Prod.mk.inj (Except.ok.inj read)
    exact ⟨by simp, rfl⟩
  | [x] =>
    obtain ⟨a, first, done⟩ := bind_eq_ok read
    obtain ⟨smallA, rfl⟩ := sextet_eq_ok first
    obtain ⟨rfl, rfl⟩ := Prod.mk.inj (Except.ok.inj done)
    exact ⟨by simp [smallA], rfl⟩
  | x :: y :: rest =>
    obtain ⟨a, first, afterA⟩ := bind_eq_ok read
    obtain ⟨b, second, afterB⟩ := bind_eq_ok afterA
    obtain ⟨smallA, rfl⟩ := sextet_eq_ok first
    obtain ⟨smallB, rfl⟩ := sextet_eq_ok second
    match rest with
    | [] =>
      obtain ⟨rfl, rfl⟩ := Prod.mk.inj (Except.ok.inj afterB)
      exact ⟨by simp [smallA, smallB], rfl⟩
    | [z] =>
      by_cases padded : z = pad
      · simp only [if_pos padded] at afterB
        obtain ⟨rfl, rfl⟩ := Prod.mk.inj (Except.ok.inj afterB)
        exact ⟨by simp [smallA, smallB], by rw [padded]; rfl⟩
      · simp only [if_neg padded] at afterB
        obtain ⟨c, third, afterC⟩ := bind_eq_ok afterB
        obtain ⟨smallC, rfl⟩ := sextet_eq_ok third
        obtain ⟨rfl, rfl⟩ := Prod.mk.inj (Except.ok.inj afterC)
        exact ⟨by simp [smallA, smallB, smallC], rfl⟩
    | [z, w] =>
      by_cases padded : z = pad
      · by_cases filled : w = pad
        · simp only [if_pos padded, if_pos filled] at afterB
          obtain ⟨rfl, rfl⟩ := Prod.mk.inj (Except.ok.inj afterB)
          exact ⟨by simp [smallA, smallB], by rw [padded, filled]; rfl⟩
        · simp only [if_pos padded, if_neg filled, reduceCtorEq] at afterB
      · simp only [if_neg padded] at afterB
        obtain ⟨c, third, afterC⟩ := bind_eq_ok afterB
        obtain ⟨smallC, rfl⟩ := sextet_eq_ok third
        by_cases filled : w = pad
        · simp only [if_pos filled] at afterC
          obtain ⟨rfl, rfl⟩ := Prod.mk.inj (Except.ok.inj afterC)
          exact ⟨by simp [smallA, smallB, smallC], by rw [filled]; rfl⟩
        · simp only [if_neg filled] at afterC
          obtain ⟨d, fourth, afterD⟩ := bind_eq_ok afterC
          obtain ⟨smallD, rfl⟩ := sextet_eq_ok fourth
          obtain ⟨rfl, rfl⟩ := Prod.mk.inj (Except.ok.inj afterD)
          exact ⟨by simp [smallA, smallB, smallC, smallD], rfl⟩
    | _ :: _ :: _ :: _ =>
      simp only [List.length_cons] at small
      omega

theorem spells_of_decodeLast {spare : SpareBits} {offset : Nat} {group bytes : Bytes} (small : group.length ≤ 4)
    (read : decodeLast spare offset group = .ok bytes) : Spells spare group bytes := by
  obtain ⟨⟨symbols, pads⟩, found, checked⟩ := bind_eq_ok read
  obtain ⟨sextets, rfl⟩ := lastGroup_eq_ok small found
  simp only at checked
  split at checked
  · cases checked
  rename_i two
  split at checked
  · cases checked
  rename_i whole
  split at checked
  · cases checked
  rename_i allowed
  have allow : spare.Allow (groupBytes symbols).2 := fun strict => by_contra fun set => allowed ⟨strict, set⟩
  obtain rfl : (groupBytes symbols).1 = bytes := Except.ok.inj checked
  have four : symbols.length + pads = 4 := by
    simp only [List.length_append, List.length_map, List.length_replicate] at small
    omega
  match symbols with
  | [] | [_] => simp at two
  | [a, b] =>
    obtain rfl : pads = 2 := by
      simp only [List.length_cons, List.length_nil] at four
      omega
    have spare : (a * 64 + b) % 16 = b % 16 := by omega
    rw [groupBytes, spare] at allow
    exact .one (sextets a (by simp)) (sextets b (by simp)) allow
  | [a, b, c] =>
    obtain rfl : pads = 1 := by
      simp only [List.length_cons, List.length_nil] at four
      omega
    have spare : ((a * 64 + b) * 64 + c) % 4 = c % 4 := by omega
    rw [groupBytes, spare] at allow
    exact .two (sextets a (by simp)) (sextets b (by simp)) (sextets c (by simp)) allow
  | [a, b, c, d] =>
    obtain rfl : pads = 0 := by
      simp only [List.length_cons, List.length_nil] at four
      omega
    exact .three (sextets a (by simp)) (sextets b (by simp)) (sextets c (by simp)) (sextets d (by simp)) .nil
  | _ :: _ :: _ :: _ :: _ :: _ =>
    simp only [List.length_cons] at four
    omega

/-- By the recursion of reading: what was read of whole groups is spelled, and so is the last group. -/
theorem spells_of_decodeGroups {spare : SpareBits} {offset : Nat} {done text b : Bytes}
    (read : decodeGroups spare offset done text = .ok b) :
    ∃ bytes, b = done.reverse ++ bytes ∧ Spells spare text bytes := by
  fun_induction decodeGroups spare offset done text with
  | case1 offset done x y z w v rest ih =>
    obtain ⟨a₁, first, afterFirst⟩ := bind_eq_ok read
    obtain ⟨a₂, second, afterSecond⟩ := bind_eq_ok afterFirst
    obtain ⟨a₃, third, afterThird⟩ := bind_eq_ok afterSecond
    obtain ⟨a₄, fourth, afterFourth⟩ := bind_eq_ok afterThird
    obtain ⟨small₁, rfl⟩ := sextet_eq_ok first
    obtain ⟨small₂, rfl⟩ := sextet_eq_ok second
    obtain ⟨small₃, rfl⟩ := sextet_eq_ok third
    obtain ⟨small₄, rfl⟩ := sextet_eq_ok fourth
    obtain ⟨bytes, joined, spells⟩ := ih a₁ a₂ a₃ a₄ afterFourth
    exact ⟨_, by rw [joined]; simp, .three small₁ small₂ small₃ small₄ spells⟩
  | case2 => exact ⟨[], by simpa using (Except.ok.inj read).symm, .nil⟩
  | case3 offset done group long =>
    obtain ⟨bytes, last, finished⟩ := bind_eq_ok read
    have small : group.length ≤ 4 := by
      match group, long with
      | x :: y :: z :: w :: v :: rest, long => exact (long x y z w v rest rfl).elim
      | [], _ | [_], _ | [_, _], _ | [_, _, _], _ | [_, _, _, _], _ => simp
    exact ⟨bytes, (Except.ok.inj finished).symm, spells_of_decodeLast small last⟩

theorem spells_of_decode {spare : SpareBits} {text b : Bytes} (read : decode spare text = .ok b) :
    Spells spare text b := by
  have groups : decodeGroups spare 0 [] text = .ok b := by
    simp only [decode] at read
    split at read
    · split at read
      · obtain ⟨_, _, left⟩ := bind_eq_ok read
        exact left
      · exact read
    · exact read
  obtain ⟨bytes, rfl, spells⟩ := spells_of_decodeGroups groups
  exact spells

/-- The texts that can be read are those that consist of groups of symbols, of which only the last has padding. -/
theorem decode_eq_ok_iff_spells {spare : SpareBits} {text b : Bytes} :
    decode spare text = .ok b ↔ Spells spare text b := ⟨spells_of_decode, Spells.decode_eq⟩

/-- If no spare bit may be set, a text is what its bytes are written as. -/
theorem Spells.eq_encode {text b : Bytes} (spells : Spells .mustBeZero text b) : text = encode b := by
  have byte {n : Nat} (small : n < 256) : (UInt8.ofNat n).toNat = n := UInt8.toNat_ofNat_of_lt' small
  have low (n : Nat) : (UInt8.ofNat n).toNat = n % 256 := UInt8.toNat_ofNat'
  induction spells with
  | nil => rfl
  | @one a b smallA smallB allow =>
    have none := allow rfl
    have whole : (a * 64 + b) / 16 * 16 = a * 64 + b := by omega
    rw [encode, byte (by omega), whole]
    have first : (a * 64 + b) / 64 = a := by omega
    have second : (a * 64 + b) % 64 = b := by omega
    simp only [first, second]
  | @two a b c smallA smallB smallC allow =>
    have none := allow rfl
    have whole : (((a * 64 + b) * 64 + c) / 1024 * 256 + ((a * 64 + b) * 64 + c) / 4 % 256) * 4 =
        (a * 64 + b) * 64 + c := by omega
    rw [encode, byte (by omega), low, whole]
    have first : ((a * 64 + b) * 64 + c) / 4096 = a := by omega
    have second : ((a * 64 + b) * 64 + c) / 64 % 64 = b := by omega
    have third : ((a * 64 + b) * 64 + c) % 64 = c := by omega
    simp only [first, second, third]
  | @three a b c d text bytes smallA smallB smallC smallD _ ih =>
    generalize number : ((a * 64 + b) * 64 + c) * 64 + d = n
    have whole : (n / 65536 * 256 + n / 256 % 256) * 256 + n % 256 = n := by omega
    rw [encode, byte (by omega), low, low, whole]
    have first : n / 262144 = a := by omega
    have second : n / 4096 % 64 = b := by omega
    have third : n / 64 % 64 = c := by omega
    have fourth : n % 64 = d := by omega
    simp only [first, second, third, fourth, ih]

/-- Every byte string has one text. -/
theorem decode_eq_ok_iff {text b : Bytes} : decode .mustBeZero text = .ok b ↔ text = encode b := by
  constructor
  · intro read
    exact (spells_of_decode read).eq_encode
  · rintro rfl
    exact decode_encode .mustBeZero b

section Unpadded

/-- Where two bytes are left over for the last group, only the last of its letters is padding. -/
theorem Spells.exists_append_pad {spare : SpareBits} {text b : Bytes} (spells : Spells spare text b) {groups : Nat}
    (length : b.length = 3 * groups + 2) :
    ∃ front, text = front ++ [pad] ∧ front.length = 4 * groups + 3 ∧ ∀ x ∈ front, (sextet? x).isSome = true := by
  have value {n : Nat} (small : n < 64) : (sextet? (symbol n)).isSome = true := by rw [sextet?_symbol small]; rfl
  induction spells generalizing groups with
  | nil => simp at length
  | one =>
    simp only [List.length_cons, List.length_nil] at length
    omega
  | @two a b c smallA smallB smallC _ =>
    obtain rfl : groups = 0 := by
      simp only [List.length_cons, List.length_nil] at length
      omega
    exact ⟨[symbol a, symbol b, symbol c], rfl, rfl, by simp [value smallA, value smallB, value smallC]⟩
  | @three a b c d text bytes smallA smallB smallC smallD _ ih =>
    simp only [List.length_cons] at length
    obtain ⟨before, rfl⟩ : ∃ before, groups = before + 1 := ⟨groups - 1, by omega⟩
    obtain ⟨front, rfl, size, letters⟩ := ih (by omega : bytes.length = 3 * before + 2)
    refine ⟨symbol a :: symbol b :: symbol c :: symbol d :: front, rfl, by simp [size]; omega, ?_⟩
    simp only [List.forall_mem_cons]
    exact ⟨value smallA, value smallB, value smallC, value smallD, letters⟩

/-- Without padding, letters that leave three for the last group are read if the padding is put back. -/
theorem exists_spells {front : Bytes} {groups : Nat} (length : front.length = 4 * groups + 3)
    (letters : ∀ x ∈ front, (sextet? x).isSome = true) :
    ∃ b, Spells .ignored (front ++ [pad]) b ∧ b.length = 3 * groups + 2 := by
  have symbols : ∀ x ∈ front, ∃ n < 64, symbol n = x := fun x mem =>
    (Option.isSome_iff_exists.1 (letters x mem)).imp fun _ found => symbol_of_sextet? found
  clear letters
  induction groups generalizing front with
  | zero =>
    match front, length with
    | [x, y, z], _ =>
      obtain ⟨a, smallA, rfl⟩ := symbols x (by simp)
      obtain ⟨b, smallB, rfl⟩ := symbols y (by simp)
      obtain ⟨c, smallC, rfl⟩ := symbols z (by simp)
      exact ⟨_, .two smallA smallB smallC (fun strict => nomatch strict), rfl⟩
  | succ groups ih =>
    match front, length with
    | x :: y :: z :: w :: rest, length =>
      obtain ⟨a, smallA, rfl⟩ := symbols x (by simp)
      obtain ⟨b, smallB, rfl⟩ := symbols y (by simp)
      obtain ⟨c, smallC, rfl⟩ := symbols z (by simp)
      obtain ⟨d, smallD, rfl⟩ := symbols w (by simp)
      simp only [List.length_cons] at length
      have shorter : rest.length = 4 * groups + 3 := by omega
      obtain ⟨bytes, spells, size⟩ := ih shorter fun x mem => symbols x (by simp [mem])
      exact ⟨_, .three smallA smallB smallC smallD spells, by simp [size]; omega⟩

end Unpadded

end ReplyGateway.Base64
