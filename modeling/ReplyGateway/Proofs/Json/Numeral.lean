import Mathlib
import ReplyGateway.Json.Printer
import ReplyGateway.Json.Token
import ReplyGateway.Proofs.Text.Integer
import ReplyGateway.Proofs.Utf8

namespace ReplyGateway.Json.Numeral

/-- Digits with at least one among them. -/
def AreDigits (digits : List Nat) : Prop := digits ≠ [] ∧ ∀ d ∈ digits, d < 10

/-- Digits by their codes. -/
def codes (digits : List Nat) : Bytes := digits.map fun d => .ofNat (48 + d)

/-- The ways to write the digits after a point. -/
inductive SpellsFraction : Bytes → List Nat → Prop
  | none : SpellsFraction [] []
  | digits {ds : List Nat} : AreDigits ds → SpellsFraction (46 :: codes ds) ds

/-- The ways to write an exponent, after a small or a capital letter. -/
inductive SpellsExponent : Bytes → Option (Bool × List Nat) → Prop
  | none : SpellsExponent [] none
  | unsigned {e : UInt8} {ds : List Nat} : e = 101 ∨ e = 69 → AreDigits ds →
      SpellsExponent (e :: codes ds) (some (false, ds))
  | plus {e : UInt8} {ds : List Nat} : e = 101 ∨ e = 69 → AreDigits ds →
      SpellsExponent (e :: 43 :: codes ds) (some (false, ds))
  | minus {e : UInt8} {ds : List Nat} : e = 101 ∨ e = 69 → AreDigits ds →
      SpellsExponent (e :: 45 :: codes ds) (some (true, ds))

/-- Digits that may stand before a point: a zero only if it is alone. -/
def IsWhole (digits : List Nat) : Prop := AreDigits digits ∧ (digits = [0] ∨ digits.head? ≠ some 0)

/-- The ways to write a number. -/
def Spells (text : Bytes) (n : Numeral) : Prop :=
  IsWhole n.whole ∧ ∃ fraction exponent, SpellsFraction fraction n.fraction ∧ SpellsExponent exponent n.exponent ∧
    text = (if n.negative then [45] else []) ++ (codes n.whole ++ (fraction ++ exponent))

/-- Whether no number goes on into some bytes. -/
def Ends (rest : Bytes) : Prop := ∀ b ∈ rest.head?, isDigit b = false ∧ b ≠ 46 ∧ b ≠ 101 ∧ b ≠ 69

theorem Ends.nil : Ends [] := by simp [Ends]

theorem isDigit_code {d : Nat} (small : d < 10) :
    isDigit (.ofNat (48 + d)) = true ∧ digitValue (.ofNat (48 + d)) = d := by
  have all : ∀ d < 10, isDigit (.ofNat (48 + d)) = true ∧ digitValue (.ofNat (48 + d)) = d := by decide
  exact all d small

/-- Digits are read up to what is none. -/
theorem spanDigits_append {digits : List Nat} (small : ∀ d ∈ digits, d < 10) {rest : Bytes}
    (ends : ∀ b ∈ rest.head?, isDigit b = false) : spanDigits (codes digits ++ rest) = (digits, rest) := by
  have taken : ∀ b ∈ codes digits, isDigit b = true := by
    intro b mem
    obtain ⟨d, member, rfl⟩ := List.mem_map.1 mem
    exact (isDigit_code (small d member)).1
  have values : (codes digits).map digitValue = digits := by
    rw [codes, List.map_map]
    exact (List.map_congr_left fun d mem => (isDigit_code (small d mem)).2).trans (List.map_id _)
  have stops : rest.takeWhile isDigit = [] ∧ rest.dropWhile isDigit = rest := by
    cases rest with
    | nil => exact ⟨rfl, rfl⟩
    | cons b rest => simp [ends b rfl]
  simp only [spanDigits, List.span_eq_takeWhile_dropWhile, List.takeWhile_append_of_pos taken,
    List.dropWhile_append_of_pos taken, stops, List.append_nil, values]

theorem scanWhole_append {digits : List Nat} (whole : IsWhole digits) {rest : Bytes}
    (ends : ∀ b ∈ rest.head?, isDigit b = false) : scanWhole (codes digits ++ rest) = some (digits, rest) := by
  rw [scanWhole, spanDigits_append whole.1.2 ends]
  match digits, whole with
  | [], whole => exact (whole.1.1 rfl).elim
  | [d], _ => cases d <;> rfl
  | 0 :: e :: more, whole => rcases whole.2 with alone | first <;> simp_all
  | (d + 1) :: e :: more, _ => rfl

theorem scanFraction_append {text rest : Bytes} {digits : List Nat} (spells : SpellsFraction text digits)
    (ends : ∀ b ∈ rest.head?, isDigit b = false ∧ b ≠ 46) : scanFraction (text ++ rest) = some (digits, rest) := by
  cases spells with
  | none =>
    cases rest with
    | nil => rfl
    | cons b rest =>
      rw [List.nil_append, scanFraction]
      intro _ same
      exact ((ends b rfl).2 (List.cons_eq_cons.1 same).1).elim
  | digits are =>
    rw [List.cons_append, scanFraction, spanDigits_append are.2 fun b mem => (ends b mem).1]
    split
    · exact (are.1 (Prod.ext_iff.1 ‹_›).1).elim
    · rfl

/-- The digits in front begin with no sign. -/
theorem codes_eq_cons {digits : List Nat} (are : AreDigits digits) :
    ∃ b more, codes digits = b :: more ∧ isDigit b = true ∧ b ≠ 43 ∧ b ≠ 45 := by
  obtain ⟨d, rest, rfl⟩ := List.exists_cons_of_ne_nil are.1
  have digit := (isDigit_code (are.2 d List.mem_cons_self)).1
  have other {sign : UInt8} (none : isDigit sign = false) : UInt8.ofNat (48 + d) ≠ sign := by
    intro same
    rw [same, none] at digit
    cases digit
  exact ⟨_, codes rest, rfl, digit, other rfl, other rfl⟩

theorem scanExponent_append {text rest : Bytes} {exponent : Option (Bool × List Nat)}
    (spells : SpellsExponent text exponent) (ends : Ends rest) :
    scanExponent (text ++ rest) = some (exponent, rest) := by
  have digit (b : UInt8) (mem : b ∈ rest.head?) : isDigit b = false := (ends b mem).1
  cases spells with
  | none =>
    cases rest with
    | nil => rfl
    | cons b rest => simp [scanExponent, (ends b rfl).2.2]
  | @unsigned _ digits letter are =>
    have found := spanDigits_append are.2 digit
    obtain ⟨b, more, spelled, _, plus, minus⟩ := codes_eq_cons are
    obtain ⟨d, ds, rfl⟩ := List.exists_cons_of_ne_nil are.1
    rw [spelled, List.cons_append] at found
    simp [scanExponent, letter, spelled, plus, minus, found]
  | @plus _ digits letter are =>
    have found := spanDigits_append are.2 digit
    obtain ⟨d, ds, rfl⟩ := List.exists_cons_of_ne_nil are.1
    simp [scanExponent, letter, found]
  | @minus _ digits letter are =>
    have found := spanDigits_append are.2 digit
    obtain ⟨d, ds, rfl⟩ := List.exists_cons_of_ne_nil are.1
    simp [scanExponent, letter, found]

/-- What follows the digits before a point goes on with none, and what follows those after it with no point. -/
theorem SpellsExponent.head {text rest : Bytes} {exponent : Option (Bool × List Nat)}
    (spells : SpellsExponent text exponent) (ends : Ends rest) :
    ∀ b ∈ (text ++ rest).head?, isDigit b = false ∧ b ≠ 46 := by
  have letters {e : UInt8} (letter : e = 101 ∨ e = 69) : isDigit e = false ∧ e ≠ 46 := by
    rcases letter with rfl | rfl <;> decide
  cases spells with
  | none => exact fun b mem => ⟨(ends b mem).1, (ends b mem).2.1⟩
  | unsigned letter | plus letter | minus letter =>
    intro b first
    obtain rfl := Option.some.inj first
    exact letters letter

theorem SpellsFraction.head {text rest : Bytes} {digits : List Nat} (spells : SpellsFraction text digits)
    (ends : ∀ b ∈ rest.head?, isDigit b = false) : ∀ b ∈ (text ++ rest).head?, isDigit b = false := by
  cases spells with
  | none => exact ends
  | digits =>
    intro b first
    obtain rfl := Option.some.inj first
    rfl

/-- However a number is written, it is scanned to its end. -/
theorem Spells.scan_eq {text rest : Bytes} {n : Numeral} (spells : Spells text n) (ends : Ends rest) :
    scan (text ++ rest) = some (n, rest) := by
  obtain ⟨negative, whole, digits, power⟩ := n
  obtain ⟨isWhole, fraction, exponent, isFraction, isExponent, rfl⟩ := spells
  have third := scanExponent_append isExponent ends
  have second := scanFraction_append isFraction (isExponent.head ends)
  have first := scanWhole_append isWhole (isFraction.head fun b mem => (isExponent.head ends b mem).1)
  obtain ⟨b, more, spelled, _, _, minus⟩ := codes_eq_cons isWhole.1
  rw [spelled, List.cons_append] at first
  cases negative with
  | true => simp [scan, spelled, first, second, third]
  | false => simp [scan, spelled, minus, first, second, third]

theorem Spells.eq_cons {text : Bytes} {n : Numeral} (spells : Spells text n) :
    ∃ b more, text = b :: more ∧ (b = 45 ∨ isDigit b = true) := by
  obtain ⟨isWhole, fraction, exponent, _, _, rfl⟩ := spells
  cases n.negative with
  | true => exact ⟨45, _, rfl, .inl rfl⟩
  | false =>
    obtain ⟨b, more, spelled, digit, _⟩ := codes_eq_cons isWhole.1
    exact ⟨b, _, by rw [spelled]; rfl, .inr digit⟩

/-- The digits of a whole number. -/
def digitsOf (n : Nat) : List Nat := (Nat.toDigits 10 n).map fun c => c.toNat - 48

/-- A whole number as it is written. -/
def ofInt (n : Int) : Numeral := ⟨n < 0, digitsOf n.natAbs, [], none⟩

/-- The bytes of a whole number as it is written. -/
def written (n : Int) : Bytes := (if n < 0 then [45] else []) ++ codes (digitsOf n.natAbs)

/-- No number but zero itself is written with a zero in front. -/
theorem head?_toDigits {n : Nat} (positive : 0 < n) : ∃ c rest, Nat.toDigits 10 n = c :: rest ∧ c.toNat - 48 ≠ 0 := by
  induction n using Nat.strongRecOn with
  | ind n ih =>
    by_cases small : n < 10
    · refine ⟨_, [], Nat.toDigits_of_lt_base small, ?_⟩
      have digits : ∀ n < 10, 0 < n → (Nat.digitChar n).toNat - 48 ≠ 0 := by decide
      exact digits n small positive
    · obtain ⟨c, rest, digits, first⟩ := ih (n / 10) (by omega) (by omega)
      refine ⟨c, rest ++ [Nat.digitChar (n % 10)], ?_, first⟩
      rw [Nat.toDigits_of_base_le (by decide) (by omega), digits, List.cons_append]

theorem bounds_of_mem_toDigits {n : Nat} {c : Char} (mem : c ∈ Nat.toDigits 10 n) :
    48 ≤ c.toNat ∧ c.toNat ≤ 57 := Char.isDigit_iff_toNat.1 (isDigit_of_mem_toDigits mem)

theorem isWhole_digitsOf (n : Nat) : IsWhole (digitsOf n) := by
  refine ⟨⟨by simp [digitsOf, Nat.toDigits_ne_nil], fun d mem => ?_⟩, ?_⟩
  · obtain ⟨c, member, rfl⟩ := List.mem_map.1 mem
    have := bounds_of_mem_toDigits member
    omega
  · rcases Nat.eq_zero_or_pos n with rfl | positive
    · exact .inl rfl
    · obtain ⟨c, rest, spelled, first⟩ := head?_toDigits positive
      refine .inr ?_
      rw [digitsOf, spelled]
      simpa using first

theorem spells_written (n : Int) : Spells (written n) (ofInt n) := by
  refine ⟨isWhole_digitsOf _, [], [], .none, .none, ?_⟩
  simp [written, ofInt]

theorem codes_digitsOf (n : Nat) : codes (digitsOf n) = (Nat.toDigits 10 n).map fun c => .ofNat c.toNat := by
  rw [codes, digitsOf, List.map_map]
  refine List.map_congr_left fun c mem => ?_
  have := bounds_of_mem_toDigits mem
  simp only [Function.comp]
  congr 1
  omega

theorem utf8_write (n : Int) : (Number.write (.integer n)).flatMap String.utf8EncodeChar = written n := by
  have digits : (Nat.toDigits 10 n.natAbs).flatMap String.utf8EncodeChar = codes (digitsOf n.natAbs) := by
    rw [codes_digitsOf, List.map_eq_flatMap]
    exact List.flatMap_congr fun c mem =>
      Bytes.utf8EncodeChar_of_lt (Nat.lt_of_le_of_lt (bounds_of_mem_toDigits mem).2 (by decide))
  rw [Number.write, toList_toString, List.flatMap_append, digits, written]
  split <;> rfl

/-- Digits are taken to the last one if the number that they spell is below the limit. -/
theorem takeDigits_of_lt {start : Nat} {digits : List Nat}
    (small : digits.foldl (fun n d => n * 10 + d) start < significandLimit) :
    takeDigits start digits = (digits.foldl (fun n d => n * 10 + d) start, []) := by
  induction digits generalizing start with
  | nil => rfl
  | cons d rest ih =>
    have grows (ds : List Nat) (m : Nat) : m ≤ ds.foldl (fun n d => n * 10 + d) m := by
      induction ds generalizing m with
      | nil => exact Nat.le_refl _
      | cons e ds ih => exact Nat.le_trans (by omega) (ih (m * 10 + e))
    rw [takeDigits, if_pos (Nat.lt_of_le_of_lt (grows rest _) small)]
    exact ih small

/-- A whole number of 64 bits, with or without a sign, has its own value. -/
theorem value?_ofInt {n : Int} (low : -0x8000000000000000 ≤ n) (high : n < 0x10000000000000000) :
    (ofInt n).value? = some (.integer n) := by
  have spelled : (digitsOf n.natAbs).foldl (fun n d => n * 10 + d) 0 = n.natAbs := by
    rw [digitsOf, List.foldl_map]
    exact foldl_toDigits n.natAbs
  have fits : n.natAbs < significandLimit := by
    rw [significandLimit]
    omega
  have taken := takeDigits_of_lt (spelled.symm ▸ fits)
  rw [spelled] at taken
  simp only [value?, ofInt, taken, decide_eq_true_eq]
  rw [if_pos ⟨trivial, trivial, trivial, fun negative => by omega⟩]
  congr 2
  split <;> omega

end ReplyGateway.Json.Numeral
