import ReplyGateway.Json.Numeral
import ReplyGateway.Json.Quoted

namespace ReplyGateway.Json

/-- The tokens of a JSON text. Between them stand spaces, tabs and line ends. -/
inductive Token
  | openArray
  | closeArray
  | openObject
  | closeObject
  | comma
  | colon
  | null
  | bool (b : Bool)
  | number (n : Numeral)
  | string (raw : Bytes)
  deriving DecidableEq, Repr

def isSpace (b : UInt8) : Bool := b = 32 || b = 9 || b = 10 || b = 13

def isDigit (b : UInt8) : Bool := 48 ≤ b && b ≤ 57

def digitValue (b : UInt8) : Nat := b.toNat - 48

namespace Numeral

/-- The digits in front and what follows them. -/
def spanDigits (b : Bytes) : List Nat × Bytes :=
  let (digits, rest) := b.span isDigit
  (digits.map digitValue, rest)

/-- The digits before a point: a zero alone, or digits that do not start with zero. -/
def scanWhole (b : Bytes) : Option (List Nat × Bytes) :=
  match spanDigits b with
  | ([], _) => none
  | (0 :: _ :: _, _) => none
  | found => some found

/-- The digits after a point, if there is one. -/
def scanFraction : Bytes → Option (List Nat × Bytes)
  | 46 :: b =>
    match spanDigits b with
    | ([], _) => none
    | found => some found
  | b => some ([], b)

/-- An exponent with its sign, if there is one. -/
def scanExponent (b : Bytes) : Option (Option (Bool × List Nat) × Bytes) :=
  match b with
  | e :: rest =>
    if e = 101 ∨ e = 69 then
      let (negative, rest) := match rest with
        | 45 :: rest => (true, rest)
        | 43 :: rest => (false, rest)
        | _ => (false, rest)
      match spanDigits rest with
      | ([], _) => none
      | (digits, rest) => some (some (negative, digits), rest)
    else some (none, b)
  | [] => some (none, b)

/-- The number in front and what follows it. -/
def scan (b : Bytes) : Option (Numeral × Bytes) := do
  let (negative, b) := match b with
    | 45 :: b => (true, b)
    | _ => (false, b)
  let (whole, b) ← scanWhole b
  let (fraction, b) ← scanFraction b
  let (exponent, b) ← scanExponent b
  return (⟨negative, whole, fraction, exponent⟩, b)

end Numeral

namespace Token

/-- The token in front, which is not a space, and what follows it. -/
def scan : Bytes → Option (Token × Bytes)
  | 91 :: b => some (openArray, b)
  | 93 :: b => some (closeArray, b)
  | 123 :: b => some (openObject, b)
  | 125 :: b => some (closeObject, b)
  | 44 :: b => some (comma, b)
  | 58 :: b => some (colon, b)
  | 110 :: 117 :: 108 :: 108 :: b => some (null, b)
  | 116 :: 114 :: 117 :: 101 :: b => some (bool true, b)
  | 102 :: 97 :: 108 :: 115 :: 101 :: b => some (bool false, b)
  | 34 :: b => (Quoted.scan [] b).map fun (raw, rest) => (string raw, rest)
  | b => (Numeral.scan b).map fun (n, rest) => (number n, rest)

/-- Reads tokens on top of those read so far, last on top, as long as `fuel` lasts, and turns them over. -/
def scanAll : Nat → List Token → Bytes → Option (List Token)
  | _, done, [] => some done.reverse
  | 0, _, _ :: _ => none
  | fuel + 1, done, b :: rest =>
    if isSpace b then scanAll fuel done rest
    else
      match scan (b :: rest) with
      | none => none
      | some (token, rest) => scanAll fuel (token :: done) rest

/-- The tokens of a whole text. Every token and every space takes at least one byte. -/
def ofBytes? (b : Bytes) : Option (List Token) := scanAll b.length [] b

end Token
end ReplyGateway.Json
