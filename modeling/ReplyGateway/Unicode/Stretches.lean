import ReplyGateway.Text.Digit
import ReplyGateway.Text.Pieces

namespace ReplyGateway

/-- A property of characters as stretches of codes with one value each, in ascending order. A stretch ends where the
next one starts. -/
abbrev Stretches (α : Type) := List (Nat × α)

namespace Stretches
variable {α : Type}

/-- The stretch that a code lies in. -/
def find? (stretches : Stretches α) (code : Nat) : Option (Nat × α) :=
  (stretches.takeWhile fun s => s.1 ≤ code).getLast?

/-- What a code finds is a stretch that starts at or below it. -/
theorem mem_of_find? {stretches : Stretches α} {code : Nat} {s : Nat × α} (h : stretches.find? code = some s) :
    s ∈ stretches ∧ s.1 ≤ code := by
  have found := List.mem_of_getLast? h
  exact ⟨(List.takeWhile_sublist _).mem found, by simpa using List.all_eq_true.mp List.all_takeWhile s found⟩

/-- What the codes of a stretch share. -/
def value? (stretches : Stretches α) (code : Nat) : Option α := (stretches.find? code).map (·.2)

/-- Reads a code in hexadecimal, a colon and what the codes from there on share. -/
def stretch? (read? : List Char → Option α) (word : List Char) : Option (Nat × α) :=
  match word.span (· ≠ ':') with
  | (start, _ :: value) => do return (← numeral? 16 start, ← read? value)
  | _ => none

/-- Reads stretches with blanks between them. -/
def ofText (read? : List Char → Option α) (text : String) : Stretches α :=
  (words text.toList).filterMap (stretch? read?)

end Stretches

/-- Whether a code lies in a part of the codes, given by the codes where the part begins and ends in turn. -/
def isWithin (boundaries : List Nat) (code : Nat) : Bool :=
  (boundaries.takeWhile (· ≤ code)).length % 2 = 1

end ReplyGateway
