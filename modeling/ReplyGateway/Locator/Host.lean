import ReplyGateway.Bytes
import ReplyGateway.Domain.Name
import ReplyGateway.Settings.SocketAddress
import ReplyGateway.Text.Percent

namespace ReplyGateway

/-- The host of a locator. -/
inductive Host
  /-- The labels of a domain name, as they show. -/
  | domain (labels : List (List Char))
  /-- The number of an address of version 4. -/
  | address4 (number : Nat)
  /-- The groups of an address of version 6. -/
  | address6 (groups : List Nat)
  /-- A name that means something to those who know the scheme. -/
  | plain (name : List Char)
  deriving DecidableEq, Repr

namespace Host

/-- Characters that no plain name holds. -/
def isForbidden (c : Char) : Bool := " #/:<>?@[\\]^|".contains c || c = '\x00' || c = '\t' || c = '\n' || c = '\r'

/-- The number that a part of an address of version 4 spells, in decimal, octal or hexadecimal. -/
def part? : List Char → Option Nat
  | [] => none
  | '0' :: 'x' :: digits | '0' :: 'X' :: digits => numeral? 16 digits
  | '0' :: digit :: digits => numeral? 8 (digit :: digits)
  | digits => numeral? 10 digits

/-- The labels without the empty one after a dot at the end. -/
def withoutRoot (labels : List (List Char)) : List (List Char) :=
  if 1 < labels.length ∧ labels.getLast? = some [] then labels.dropLast else labels

/-- Whether a name has to be an address of version 4: its last label is a number, or digits at least. -/
def endsInNumber (labels : List (List Char)) : Bool :=
  (withoutRoot labels).getLast?.any fun part => (!part.isEmpty && part.all Char.isDigit) || (part? part).isSome

/-- The number of parts of an address, of which the last stands for all the bytes that are left. -/
def numberOfParts? : Nat → List Nat → Option Nat
  | _, [] => none
  | left, [last] => if last < Nat.pow 256 left then some last else none
  | left, part :: parts =>
    if part < 256 ∧ 1 < left then (numberOfParts? (left - 1) parts).map (part * Nat.pow 256 (left - 1) + ·) else none

/-- The address of version 4 that labels spell. -/
def address4? (labels : List (List Char)) : Option Nat := do numberOfParts? 4 (← (withoutRoot labels).mapM part?)

theorem lt_of_numberOfParts? {left : Nat} {parts : List Nat} {n : Nat} (h : numberOfParts? left parts = some n) :
    n < Nat.pow 256 left := by
  fun_induction numberOfParts? left parts generalizing n with
  | case1 => cases h
  | case2 => simp_all
  | case3 => cases h
  | case4 left part parts _ bounds ih =>
    obtain ⟨rest, found, rfl⟩ := Option.map_eq_some_iff.mp h
    have below := ih found
    obtain ⟨less, rfl⟩ : ∃ less, left = less + 1 := ⟨left - 1, by omega⟩
    simp only [Nat.add_sub_cancel] at below ⊢
    calc part * Nat.pow 256 less + rest < part * Nat.pow 256 less + Nat.pow 256 less := by omega
      _ = (part + 1) * Nat.pow 256 less := by rw [Nat.add_mul, Nat.one_mul]
      _ ≤ 256 * Nat.pow 256 less := Nat.mul_le_mul_right _ (by omega)
      _ = Nat.pow 256 less * 256 := Nat.mul_comm ..
  | case5 => cases h

/-- An address of version 4 has 32 bits. -/
theorem lt_of_address4? {labels : List (List Char)} {n : Nat} (h : address4? labels = some n) :
    n < 0x100000000 := by
  unfold address4? at h
  obtain ⟨parts, _, found⟩ := Option.bind_eq_some_iff.mp h
  exact lt_of_numberOfParts? found

/-- Reads a domain name or an address of version 4. Bytes may be escaped. -/
def ofDomain? (cs : List Char) : Option Host := do
  let text ← Bytes.text? (percentDecode (Bytes.ofString (String.ofList cs)))
  let labels ← Domain.labels? text.toList
  if labels = [[]] then none
  else if endsInNumber labels then (address4? labels).map address4
  else some (domain labels)

/-- Reads a host: an address of version 6 in brackets, or a name that is a domain or plain. -/
def ofText? (isDomain : Bool) (cs : List Char) : Option Host :=
  match cs with
  | '[' :: inside =>
    if inside.getLast? = some ']' then
      match SocketAddress.groups? inside.dropLast with
      | some (groups, []) => some (address6 groups)
      | _ => none
    else none
  | _ => if isDomain then ofDomain? cs else if cs.any isForbidden then none else some (plain cs)

end Host
end ReplyGateway
