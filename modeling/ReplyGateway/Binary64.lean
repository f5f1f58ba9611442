namespace ReplyGateway

/-- A finite floating point number of 64 bits without its sign, `significand · 2 ^ exponent`. The significand is below
2 ^ 53, and at least 2 ^ 52 unless the exponent is the least one. -/
structure Binary64 where
  significand : Nat
  exponent : Int
  deriving DecidableEq, Repr

namespace Binary64

def leastExponent : Int := -1074

def greatestExponent : Int := 971

def zero : Binary64 := ⟨0, leastExponent⟩

/-- A quotient of whole numbers that is the number. -/
def toRatio (x : Binary64) : Nat × Nat :=
  if 0 ≤ x.exponent then (x.significand <<< x.exponent.toNat, 1) else (x.significand, 1 <<< (-x.exponent).toNat)

/-- The whole number nearest to a quotient; a half goes to the even one. -/
def roundQuotient (numerator denominator : Nat) : Nat :=
  let q := numerator / denominator
  let twice := 2 * (numerator % denominator)
  if twice < denominator ∨ (twice = denominator ∧ q % 2 = 0) then q else q + 1

/-- The quotient as a multiple of 2 ^ `exponent`, which is again a quotient. -/
def scale (numerator denominator : Nat) (exponent : Int) : Nat × Nat :=
  if 0 ≤ exponent then (numerator, denominator <<< exponent.toNat)
  else (numerator <<< (-exponent).toNat, denominator)

/-- The greatest exponent that leaves a significand of 53 bits, but not below the least one. -/
def exponentOf (numerator denominator : Nat) : Int :=
  let guess := (numerator.log2 : Int) - (denominator.log2 : Int) - 53
  let (n, d) := scale numerator denominator guess
  max leastExponent (if n / d < 0x20000000000000 then guess else guess + 1)

/-- The number nearest to a quotient, with ties to an even significand; `none` beyond the greatest number. -/
def ofRatio? (numerator denominator : Nat) : Option Binary64 :=
  if numerator = 0 then some zero
  else
    let exponent := exponentOf numerator denominator
    let (n, d) := scale numerator denominator exponent
    let significand := roundQuotient n d
    let x : Binary64 :=
      if significand < 0x20000000000000 then ⟨significand, exponent⟩ else ⟨significand / 2, exponent + 1⟩
    if x.exponent ≤ greatestExponent then some x else none

def mul? (x y : Binary64) : Option Binary64 :=
  let (a, b) := x.toRatio
  let (c, d) := y.toRatio
  ofRatio? (a * c) (b * d)

def div? (x y : Binary64) : Option Binary64 :=
  let (a, b) := x.toRatio
  let (c, d) := y.toRatio
  ofRatio? (a * d) (b * c)

def powerOfTen? (k : Nat) : Option Binary64 := ofRatio? (Nat.pow 10 k) 1

end Binary64
end ReplyGateway
