namespace ReplyGateway

/-- The signed whole numbers of 64 bits. -/
def isInt64 (n : Int) : Bool := -0x8000000000000000 ≤ n && n < 0x8000000000000000

/-- The number that decimal digits spell; `none` without digits, or if there is anything else. -/
def digits? (cs : List Char) : Option Nat :=
  if cs.isEmpty ∨ !cs.all Char.isDigit then none else some (cs.foldl (fun n c => n * 10 + (c.toNat - 48)) 0)

/-- A signed number of 64 bits, with an optional sign in front. -/
def int64? (s : String) : Option Int := do
  let n : Int ← match s.toList with
    | '-' :: rest => (digits? rest).map fun n => -(n : Int)
    | '+' :: rest => (digits? rest).map fun n => (n : Int)
    | cs => (digits? cs).map fun n => (n : Int)
  if isInt64 n then some n else none

/-- A number of 64 bits without a sign, or with a plus in front. -/
def nat64? (s : String) : Option Nat := do
  let n ← match s.toList with
    | '+' :: rest => digits? rest
    | cs => digits? cs
  if n < 0x10000000000000000 then some n else none

end ReplyGateway
