import Mathlib
import ReplyGateway.Instant
import ReplyGateway.Proofs.Text.Integer

namespace ReplyGateway.Instant

variable {width n : Nat} {rest : List Char}

section Digits

theorem length_padded (fits : n < 10 ^ width) (pos : 0 < width) : (padded width n).length = width := by
  have length := Nat.toDigits_length 10 n width pos fits
  rw [padded, List.length_append, List.length_replicate]
  omega

theorem isDigit_of_mem_padded {c : Char} (member : c ∈ padded width n) : c.isDigit = true := by
  rcases List.mem_append.1 member with zero | digit
  · rw [List.eq_of_mem_replicate zero]
    rfl
  · exact isDigit_of_mem_toDigits digit

theorem foldl_replicate_zero (count n : Nat) :
    (List.replicate count '0').foldl (fun m c => m * 10 + (c.toNat - 48)) n = n * 10 ^ count := by
  induction count generalizing n with
  | zero => simp
  | succ count ih =>
    rw [List.replicate_succ, List.foldl_cons, ih, Nat.pow_succ']
    change (n * 10 + 0) * _ = _
    rw [Nat.add_zero, Nat.mul_assoc]

/-- Zeros in front do not change the number that digits spell. -/
theorem foldl_padded (width n : Nat) : (padded width n).foldl (fun m c => m * 10 + (c.toNat - 48)) 0 = n := by
  simp only [padded, List.foldl_append, foldl_replicate_zero, Nat.zero_mul, foldl_toDigits]

theorem fixedNumber?_append {digits : List Char} (all : ∀ c ∈ digits, c.isDigit = true) (n : Nat) :
    fixedNumber? digits.length n (digits ++ rest) =
      some (digits.foldl (fun m c => m * 10 + (c.toNat - 48)) n, rest) := by
  induction digits generalizing n with
  | nil => rfl
  | cons c digits ih =>
    rw [List.length_cons, List.cons_append, fixedNumber?, if_pos (all c (List.mem_cons_self ..)), List.foldl_cons]
    exact ih (fun d member => all d (List.mem_cons_of_mem _ member)) _

/-- A number that fits into so many digits is read back from them. -/
theorem fixedNumber?_padded (fits : n < 10 ^ width) (pos : 0 < width) :
    fixedNumber? width 0 (padded width n ++ rest) = some (n, rest) := by
  have all : ∀ c ∈ padded width n, c.isDigit = true := fun _ => isDigit_of_mem_padded
  have read : fixedNumber? (padded width n).length 0 (padded width n ++ rest) = _ := fixedNumber?_append all 0
  rwa [length_padded fits pos, foldl_padded] at read

/-- The digits of a fraction count from its point on. -/
theorem fraction_padded (fits : n < 10 ^ width) (pos : 0 < width) (le : width ≤ 9) :
    fraction (padded width n) = n * 10 ^ (9 - width) := by
  have length := length_padded fits pos
  rw [fraction, List.take_append, length, List.take_of_length_le (length.trans_le le), List.take_replicate,
    Nat.min_eq_left (Nat.sub_le ..), List.foldl_append, foldl_padded, foldl_replicate_zero]

theorem fraction?_padded (fits : n < 10 ^ width) (pos : 0 < width) (le : width ≤ 9) :
    fraction? ('.' :: (padded width n ++ '+' :: rest)) = some (n * 10 ^ (9 - width), '+' :: rest) := by
  have digits : (padded width n ++ '+' :: rest).takeWhile Char.isDigit = padded width n := by
    rw [List.takeWhile_append_of_pos fun _ => isDigit_of_mem_padded, List.takeWhile_cons_of_neg (by decide),
      List.append_nil]
  have others : (padded width n ++ '+' :: rest).dropWhile Char.isDigit = '+' :: rest := by
    rw [List.dropWhile_append_of_pos fun _ => isDigit_of_mem_padded, List.dropWhile_cons_of_neg (by decide)]
  have some' : (padded width n).isEmpty = false := by
    rw [List.isEmpty_eq_false_iff, ← List.length_pos_iff, length_padded fits pos]
    exact pos
  simp [fraction?, List.span_eq_takeWhile_dropWhile, digits, others, some', fraction_padded fits pos le]

/-- As many groups of digits as a fraction needs spell all of it. -/
theorem fraction?_fractionText (lt : n < 1000000000) :
    fraction? (fractionText n ++ '+' :: rest) = some (n, '+' :: rest) := by
  unfold fractionText
  split
  · rename_i zero
    rw [zero]
    rfl
  · split
    · rename_i millis
      rw [List.cons_append, fraction?_padded (by omega) (by decide) (by decide)]
      congr 2
      omega
    · split
      · rename_i micros
        rw [List.cons_append, fraction?_padded (by omega) (by decide) (by decide)]
        congr 2
        omega
      · rw [List.cons_append, fraction?_padded (by omega) (by decide) (by decide)]
        congr 2
        omega

end Digits

/-- Whether the year of an instant has four digits, with zeros in front. -/
def HasFourDigitYear (i : Instant) : Prop := 0 ≤ i.date.year ∧ i.date.year ≤ 9999

theorem minutesBefore_zero (i : Instant) : i.minutesBefore 0 = i := by
  obtain ⟨date, second, nanosecond, lt, _⟩ := i
  have nonneg : ¬ (second : Int) - 0 * 60 < 0 := by omega
  have sameDay : ¬ 86400 ≤ (second : Int) - 0 * 60 := by omega
  have same : (((second : Int) - 0 * 60) % 86400).toNat = second := by omega
  simp only [minutesBefore, if_neg nonneg, if_neg sameDay, same]

theorem of?_self (d : Date) : Date.of? d.year d.month d.day = some d := dif_pos ⟨d.month_bounds, d.day_bounds⟩

theorem of?_eq_some {i : Instant} {hour minute second nanosecond : Nat}
    (bounds : hour ≤ 23 ∧ minute ≤ 59 ∧ second ≤ 60) (ofDay : (hour * 60 + minute) * 60 + min second 59 = i.second)
    (ofSecond : (if second = 60 then nanosecond + 1000000000 else nanosecond) = i.nanosecond) :
    of? i.date hour minute second nanosecond = some i := by
  simp only [of?, if_pos bounds, ofDay, ofSecond]
  exact dif_pos ⟨i.second_lt, i.nanosecond_lt⟩

/-- The clock shows a leap second as second 60 of its minute. -/
theorem of?_clock (i : Instant) :
    of? i.date (i.second / 3600) (i.second / 60 % 60) (i.second % 60 + if 1000000000 ≤ i.nanosecond then 1 else 0)
      (if 1000000000 ≤ i.nanosecond then i.nanosecond - 1000000000 else i.nanosecond) = some i := by
  have second_lt := i.second_lt
  have nanosecond_lt := i.nanosecond_lt
  by_cases leap : 1000000000 ≤ i.nanosecond
  · have last : i.second % 60 = 59 := by
      by_contra other
      rw [if_neg other] at nanosecond_lt
      omega
    simp only [if_pos leap]
    refine of?_eq_some ⟨by omega, by omega, by omega⟩ (by omega) ?_
    rw [if_pos (by omega)]
    omega
  · simp only [if_neg leap]
    refine of?_eq_some ⟨by omega, by omega, by omega⟩ (by omega) ?_
    rw [if_neg (by omega)]

theorem clock_nanosecond_lt (i : Instant) :
    (if 1000000000 ≤ i.nanosecond then i.nanosecond - 1000000000 else i.nanosecond) < 1000000000 := by
  have lt := i.nanosecond_lt
  split at lt <;> split <;> omega

/-- An instant of a year with four digits is read back from the text in which it is stored, to the nanosecond and also
in a leap second. -/
theorem ofText?_storedText {i : Instant} (year : i.HasFourDigitYear) : ofText? i.storedText = some i := by
  obtain ⟨nonneg, short⟩ := year
  have month := i.date.month_bounds
  have day : i.date.day ≤ 31 := by
    have bounds := i.date.day_bounds
    unfold daysInMonth at bounds
    split at bounds <;> (try split at bounds) <;> omega
  have second := i.second_lt
  have zero : offset? "+00:00".toList = some 0 := by decide
  have yearText : yearText i.date.year = padded 4 i.date.year.toNat := if_pos ⟨nonneg, short⟩
  have same : ((i.date.year.toNat : Nat) : Int) = i.date.year := Int.toNat_of_nonneg nonneg
  have mark : "+00:00".toList = '+' :: "00:00".toList := rfl
  have seconds : i.second % 60 + (if 1000000000 ≤ i.nanosecond then 1 else 0) < 10 ^ 2 := by split <;> omega
  rw [ofText?, storedText, textWith, String.toList_ofList, yearText]
  simp only [fixedNumber?_padded (show i.date.year.toNat < 10 ^ 4 by omega) (by decide), Option.bind_eq_bind,
    Option.bind_some, fixedNumber?_padded (show i.date.month < 10 ^ 2 by omega) (by decide),
    fixedNumber?_padded (show i.date.day < 10 ^ 2 by omega) (by decide),
    fixedNumber?_padded (show i.second / 3600 < 10 ^ 2 by omega) (by decide),
    fixedNumber?_padded (show i.second / 60 % 60 < 10 ^ 2 by omega) (by decide),
    fixedNumber?_padded seconds (by decide), mark, fraction?_fractionText i.clock_nanosecond_lt, same, of?_self,
    of?_clock]
  rw [← mark, zero]
  simp [minutesBefore_zero]

end ReplyGateway.Instant
