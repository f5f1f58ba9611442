namespace ReplyGateway

/-- The value of the digit with a code in ASCII, in a base of at most sixteen. Letters may be small or capital. -/
def digit? (base code : Nat) : Option Nat :=
  let value :=
    if 48 ≤ code ∧ code ≤ 57 then some (code - 48)
    else if 97 ≤ code ∧ code ≤ 102 then some (code - 87)
    else if 65 ≤ code ∧ code ≤ 70 then some (code - 55)
    else none
  value.filter (· < base)

/-- The number that digits spell, zero without digits; `none` if there is anything else. -/
def numeral? (base : Nat) (cs : List Char) : Option Nat :=
  cs.foldlM (fun n c => do return n * base + (← digit? base c.toNat)) 0

end ReplyGateway
