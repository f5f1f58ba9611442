import ReplyGateway.Decimal.Shortest

namespace ReplyGateway.Json

/-- A number as it is written. Digits are given by their values; a number without a fraction has no
fraction digits. -/
structure Numeral where
  negative : Bool
  whole : List Nat
  fraction : List Nat
  /-- Whether the exponent is negative, and its digits. -/
  exponent : Option (Bool × List Nat)
  deriving DecidableEq, Repr

/-- The value of a number. A whole number in the range of 64 bits is exact; any other is a floating point number, read
with at most sixty-four bits of its digits. -/
inductive Number
  /-- At least -2 ^ 63 and less than 2 ^ 64. -/
  | integer (n : Int)
  | float (negative : Bool) (magnitude : Binary64)
  deriving DecidableEq, Repr

namespace Numeral

/-- The whole numbers that a significand can hold. -/
def significandLimit : Nat := 0x10000000000000000

/-- Takes digits into a significand as long as it stays below its limit, and returns those left over. -/
def takeDigits (significand : Nat) : List Nat → Nat × List Nat
  | [] => (significand, [])
  | d :: rest =>
    if significand * 10 + d < significandLimit then takeDigits (significand * 10 + d) rest
    else (significand, d :: rest)

/-- Exponents from here on are all alike. -/
def exponentLimit : Nat := 0x80000000

/-- The number that digits spell, or the limit if it is beyond. -/
def cappedNat (digits : List Nat) : Nat := digits.foldl (fun n d => min exponentLimit (n * 10 + d)) 0

def writtenExponent (n : Numeral) : Int :=
  match n.exponent with
  | none => 0
  | some (negative, digits) => if negative then -(cappedNat digits : Int) else cappedNat digits

/-- Multiplies with a power of ten, dividing by 10 ^ 308 as long as the exponent is below -308. `none` beyond
the greatest number. -/
def scaleByTen (x : Binary64) (exponent : Int) : Option Binary64 :=
  if x.significand = 0 then some x
  else if 308 < exponent then none
  else if 0 ≤ exponent then do x.mul? (← Binary64.powerOfTen? exponent.toNat)
  else if -308 ≤ exponent then do x.div? (← Binary64.powerOfTen? (-exponent).toNat)
  else do scaleByTen (← x.div? (← Binary64.powerOfTen? 308)) (exponent + 308)
termination_by (-exponent).toNat

/-- The magnitude as a floating point number. Whole digits that the significand cannot hold count as
zeros, fraction digits that it cannot hold are dropped. -/
def magnitude? (n : Numeral) : Option Binary64 := do
  let (significand, left) := takeDigits 0 n.whole
  let (significand, dropped) := takeDigits significand n.fraction
  let exponent : Int := left.length - (n.fraction.length - dropped.length : Nat) + n.writtenExponent
  scaleByTen (← Binary64.ofRatio? significand 1) exponent

/-- The value; `none` if it is beyond the greatest floating point number. -/
def value? (n : Numeral) : Option Number :=
  let whole := takeDigits 0 n.whole
  if n.fraction = [] ∧ n.exponent = none ∧ whole.2 = [] ∧ (n.negative → 0 < whole.1 ∧ whole.1 ≤ 0x8000000000000000) then
    some (.integer (if n.negative then -(whole.1 : Int) else whole.1))
  else n.magnitude?.map (.float n.negative)

end Numeral

/-- The shortest text of a number, without an exponent. -/
def Number.text : Number → String
  | .integer n => toString n
  | .float negative magnitude => Decimal.text negative magnitude

end ReplyGateway.Json
