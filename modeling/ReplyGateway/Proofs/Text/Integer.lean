import Mathlib
import ReplyGateway.Text.Integer

namespace ReplyGateway

theorem toList_toString (n : Int) :
    (toString n).toList = (if n < 0 then ['-'] else []) ++ Nat.toDigits 10 n.natAbs := by
  cases n with
  | ofNat k =>
    have text : (toString (Int.ofNat k)).toList = Nat.toDigits 10 k := Nat.toList_repr
    rw [text, if_neg (by simp)]
    rfl
  | negSucc k =>
    have text : (toString (Int.negSucc k)).toList = '-' :: Nat.toDigits 10 (k + 1) := by
      change ("-" ++ (k + 1).repr).toList = _
      rw [String.toList_append, Nat.toList_repr]
      rfl
    rw [text, if_pos (Int.negSucc_lt_zero k)]
    rfl

theorem toList_toString_ne_nil (n : Int) : (toString n).toList ≠ [] := by
  rw [toList_toString]
  exact fun empty => Nat.toDigits_ne_nil (List.append_eq_nil_iff.1 empty).2

theorem isDigit_of_mem_toDigits {n : Nat} {c : Char} (mem : c ∈ Nat.toDigits 10 n) : c.isDigit = true :=
  Nat.isDigit_of_mem_toDigits (by decide) (by decide) mem

/-- The digits of a number, by their values, spell the number. -/
theorem foldl_toDigits (n : Nat) : (Nat.toDigits 10 n).foldl (fun m c => m * 10 + (c.toNat - 48)) 0 = n := by
  have spelled := Nat.ofDigitChars_toDigits (b := 10) (n := n) (by decide) (by decide)
  rw [Nat.ofDigitChars_eq_foldl] at spelled
  simp only [Nat.mul_comm 10] at spelled
  exact spelled

theorem digits?_toDigits (n : Nat) : digits? (Nat.toDigits 10 n) = some n := by
  have all : (Nat.toDigits 10 n).all Char.isDigit = true := List.all_eq_true.2 fun _ => isDigit_of_mem_toDigits
  have some' : (Nat.toDigits 10 n).isEmpty = false := by simp
  rw [digits?, all, some', foldl_toDigits]
  rfl

/-- A number of 64 bits is read back from its decimal text. -/
theorem int64?_toString {n : Int} (fits : isInt64 n = true) : int64? (toString n) = some n := by
  obtain ⟨k, size⟩ : ∃ k, n.natAbs = k := ⟨_, rfl⟩
  have digits := digits?_toDigits k
  rw [int64?, toList_toString, size]
  by_cases negative : n < 0
  · have same : -(k : Int) = n := by omega
    rw [if_pos negative, List.singleton_append]
    simp [digits, same, fits]
  · have same : (k : Int) = n := by omega
    obtain ⟨c, more, spelled⟩ := List.exists_cons_of_ne_nil (Nat.toDigits_ne_nil (n := k) (b := 10))
    have digit : c.isDigit = true := isDigit_of_mem_toDigits (spelled ▸ List.mem_cons_self)
    have minus : c ≠ '-' := by rintro rfl; cases digit
    have plus : c ≠ '+' := by rintro rfl; cases digit
    rw [spelled] at digits
    rw [if_neg negative, List.nil_append, spelled]
    simp [digits, same, fits, minus, plus]

end ReplyGateway
