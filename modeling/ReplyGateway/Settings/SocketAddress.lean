import ReplyGateway.Text.Digit

namespace ReplyGateway

/-- An address to listen on: an address of the Internet protocol, version 4 or 6, and a port. -/
inductive SocketAddress
  /-- Four bytes. -/
  | v4 (bytes : List Nat) (port : Nat)
  /-- Eight groups of sixteen bits, and the number of a scope, zero for none. -/
  | v6 (groups : List Nat) (scope port : Nat)
  deriving DecidableEq, Repr

namespace SocketAddress

/-- The number in front, of all the digits there and below `limit`. -/
def number? (base limit : Nat) (cs : List Char) : Option (Nat × List Char) :=
  let (digits, rest) := cs.span fun c => (digit? base c.toNat).isSome
  let n := digits.foldl (fun n c => n * base + (digit? base c.toNat).getD 0) 0
  if digits.isEmpty ∨ limit ≤ n then none else some (n, rest)

/-- The number in front, of at most `most` digits. -/
def shortNumber? (base limit most : Nat) (cs : List Char) : Option (Nat × List Char) := do
  let (n, rest) ← number? base limit cs
  if cs.length - rest.length ≤ most then some (n, rest) else none

/-- A byte in decimal without zeros in front. -/
def byte? (cs : List Char) : Option (Nat × List Char) := do
  let (n, rest) ← shortNumber? 10 256 3 cs
  if cs.head? = some '0' ∧ 1 < cs.length - rest.length then none else some (n, rest)

def char? (c : Char) : List Char → Option (List Char)
  | d :: rest => if c = d then some rest else none
  | [] => none

def bytes? (cs : List Char) : Option (List Nat × List Char) := do
  let (a, cs) ← byte? cs
  let (b, cs) ← byte? (← char? '.' cs)
  let (c, cs) ← byte? (← char? '.' cs)
  let (d, cs) ← byte? (← char? '.' cs)
  return ([a, b, c, d], cs)

/-- Reads groups with colons between them, at most `room` of them. Where there is room for two, an address of
version 4 may stand, and ends the groups; the flag tells whether one does. -/
def groups : Nat → Bool → List Char → List Nat × Bool × List Char
  | 0, _, cs => ([], false, cs)
  | room + 1, first, cs =>
    match (if first then some cs else char? ':' cs) with
    | none => ([], false, cs)
    | some inner =>
      match (if 0 < room then bytes? inner else none) with
      | some ([a, b, c, d], rest) => ([a * 256 + b, c * 256 + d], true, rest)
      | _ =>
        match shortNumber? 16 65536 4 inner with
        | none => ([], false, cs)
        | some (n, rest) =>
          let (more, embedded, rest) := groups room false rest
          (n :: more, embedded, rest)

/-- An address of version 6: eight groups, or fewer with two colons for a row of zeros. -/
def groups? (cs : List Char) : Option (List Nat × List Char) :=
  let (front, embedded, rest) := groups 8 true cs
  if front.length = 8 then some (front, rest)
  else if embedded then none
  else
    match rest with
    | ':' :: ':' :: rest =>
      let (back, _, rest) := groups (7 - front.length) true rest
      some (front ++ List.replicate (8 - front.length - back.length) 0 ++ back, rest)
    | _ => none

def port? (cs : List Char) : Option Nat := do
  match ← number? 10 65536 (← char? ':' cs) with
  | (port, []) => some port
  | _ => none

/-- Reads an address with its port, and nothing else. -/
def ofString? (s : String) : Option SocketAddress :=
  match s.toList with
  | '[' :: cs => do
    let (groups, cs) ← groups? cs
    let (scope, cs) ← match cs with
      | '%' :: cs => number? 10 0x100000000 cs
      | _ => some (0, cs)
    return .v6 groups scope (← port? (← char? ']' cs))
  | cs => do
    let (bytes, cs) ← bytes? cs
    return .v4 bytes (← port? cs)

def bytesText (bytes : List Nat) : String := ".".intercalate (bytes.map toString)

def groupsText (groups : List Nat) : String :=
  ":".intercalate (groups.map fun n => String.ofList (Nat.toDigits 16 n))

/-- The length of the row of zeros in front. -/
def zerosInFront (groups : List Nat) : Nat := (groups.takeWhile (· = 0)).length

/-- Where the longest row of zeros starts, of several the first, and its length. -/
def longestZeros (groups : List Nat) : Nat × Nat :=
  (List.range groups.length).foldl (fun (best : Nat × Nat) start =>
    let length := zerosInFront (groups.drop start)
    if best.2 < length then (start, length) else best) (0, 0)

/-- An address of version 6, with its longest row of zeros left out. One that stands for an address of version 4 shows
it. -/
def addressText (groups : List Nat) : String :=
  match groups with
  | [0, 0, 0, 0, 0, 65535, a, b] => "::ffff:" ++ bytesText [a / 256, a % 256, b / 256, b % 256]
  | _ =>
    let (start, length) := longestZeros groups
    if length ≤ 1 then groupsText groups
    else groupsText (groups.take start) ++ "::" ++ groupsText (groups.drop (start + length))

def text : SocketAddress → String
  | v4 bytes port => bytesText bytes ++ ":" ++ toString port
  | v6 groups scope port =>
    "[" ++ addressText groups ++ (if scope = 0 then "" else "%" ++ toString scope) ++ "]:" ++ toString port

end SocketAddress
end ReplyGateway
