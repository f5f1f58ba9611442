import ReplyGateway.Binary64

namespace ReplyGateway

/-- The number `digits · 10 ^ exponent`. -/
structure Decimal where
  digits : Nat
  exponent : Int
  deriving DecidableEq, Repr

namespace Decimal

/-- Whether a decimal lies between two halves of neighbouring numbers, all in units of a quarter of the last
bit of `x`. -/
def roundsTo (x : Binary64) (c : Decimal) : Bool :=
  let below := if x.significand = 0x10000000000000 ∧ Binary64.leastExponent < x.exponent then 1 else 2
  let low := 4 * x.significand - below
  let high := 4 * x.significand + 2
  let (n, d) :=
    if 0 ≤ c.exponent then (c.digits * Nat.pow 10 c.exponent.toNat, 1)
    else (c.digits, Nat.pow 10 (-c.exponent).toNat)
  let (n, d) := Binary64.scale (4 * n) d x.exponent
  if x.significand % 2 = 0 then low * d ≤ n && n ≤ high * d else low * d < n && n < high * d

/-- The two decimals next to `x` with the given exponent, the nearer one first; in the middle, the upper
one. -/
def neighbours (x : Binary64) (exponent : Int) : List Decimal :=
  let (n, d) := x.toRatio
  let (n, d) := if 0 ≤ exponent then (n, d * Nat.pow 10 exponent.toNat) else (n * Nat.pow 10 (-exponent).toNat, d)
  let lower : Decimal := ⟨n / d, exponent⟩
  let upper : Decimal := ⟨n / d + 1, exponent⟩
  if 2 * (n % d) < d then [lower, upper] else [upper, lower]

/-- An exponent above that of the first digit of `x`, by one or two. -/
def exponentAbove (x : Binary64) : Int :=
  let (n, d) := x.toRatio
  if d ≤ n then ((Nat.toDigits 10 (n / d)).length : Int) else 2 - ((Nat.toDigits 10 (d / n)).length : Int)

/-- The shortest decimal of a number other than zero: of the decimals that round to the number, those with the fewest
digits, and of these the nearest. Grids are tried from the coarsest to the finest. -/
def shortest (x : Binary64) : Decimal :=
  let start := exponentAbove x
  (((List.range 20).flatMap fun (k : Nat) => neighbours x (start - k)).find? (roundsTo x)).getD ⟨0, 0⟩

/-- A decimal without an exponent. -/
def positional (c : Decimal) : String :=
  let digits := Nat.toDigits 10 c.digits
  if 0 ≤ c.exponent then String.ofList (digits ++ List.replicate c.exponent.toNat '0')
  else
    let places := (-c.exponent).toNat
    let padded := List.replicate (places + 1 - digits.length) '0' ++ digits
    let whole := padded.length - places
    String.ofList (padded.take whole ++ '.' :: padded.drop whole)

/-- The shortest text of a number with its sign. -/
def text (negative : Bool) (x : Binary64) : String :=
  (if negative then "-" else "") ++ if x.significand = 0 then "0" else (shortest x).positional

/-- The shortest decimal with an exponent where positional notation would be long: outside of 10 ^ -5 to
10 ^ 16. Positional notation shows at least one decimal place. -/
def scientific (negative : Bool) (x : Binary64) : List Char :=
  let sign := if negative then ['-'] else []
  if x.significand = 0 then sign ++ ['0', '.', '0']
  else
    let c := shortest x
    let digits := Nat.toDigits 10 c.digits
    let point : Int := digits.length + c.exponent
    if -5 < point ∧ point ≤ 16 then
      sign ++ c.positional.toList ++ if 0 ≤ c.exponent then ['.', '0'] else []
    else
      sign ++ digits.take 1 ++ (if digits.length = 1 then [] else '.' :: digits.drop 1) ++
        'e' :: (toString (point - 1)).toList

end Decimal

end ReplyGateway
