import ReplyGateway.Bytes

namespace ReplyGateway.Base64

/-- What keeps a text from being Base64. Offsets count bytes from the start of the text. -/
inductive Fault
  | symbol (byte : UInt8) (offset : Nat)
  | lastSymbol (byte : UInt8) (offset : Nat)
  | length (size : Nat)
  | padding
  deriving DecidableEq, Repr

def Fault.message : Fault → String
  | .symbol byte offset => s!"Invalid symbol {byte.toNat}, offset {offset}."
  | .lastSymbol byte offset => s!"Invalid last symbol {byte.toNat}, offset {offset}."
  | .length size => s!"Invalid input length: {size}"
  | .padding => "Invalid padding"

/-- Whether bits that the last symbol holds beyond the last whole byte have to be zero. -/
inductive SpareBits
  | mustBeZero
  | ignored
  deriving DecidableEq, Repr

/-- The byte that spells a value below 64. -/
def symbol (n : Nat) : UInt8 :=
  UInt8.ofNat
    (if n < 26 then 65 + n else if n < 52 then 71 + n else if n < 62 then n - 4 else if n = 62 then 43 else 47)

/-- The value below 64 that a byte spells. -/
def sextet? (b : UInt8) : Option Nat :=
  let n := b.toNat
  if 65 ≤ n ∧ n ≤ 90 then some (n - 65)
  else if 97 ≤ n ∧ n ≤ 122 then some (n - 71)
  else if 48 ≤ n ∧ n ≤ 57 then some (n + 4)
  else if n = 43 then some 62
  else if n = 47 then some 63
  else none

/-- A symbol reads back as its value. -/
theorem sextet?_symbol {n : Nat} (h : n < 64) : sextet? (symbol n) = some n := by
  revert h; revert n; decide +kernel

def pad : UInt8 := 61

/-- Base64 with the standard alphabet and mandatory padding. -/
def encode : Bytes → Bytes
  | [] => []
  | [a] =>
    let n := a.toNat * 16
    [symbol (n / 64), symbol (n % 64), pad, pad]
  | [a, b] =>
    let n := (a.toNat * 256 + b.toNat) * 4
    [symbol (n / 4096), symbol (n / 64 % 64), symbol (n % 64), pad]
  | a :: b :: c :: rest =>
    let n := (a.toNat * 256 + b.toNat) * 256 + c.toNat
    symbol (n / 262144) :: symbol (n / 4096 % 64) :: symbol (n / 64 % 64) :: symbol (n % 64) :: encode rest

/-- The text of `encode`: every symbol is an ASCII character. -/
def encodeText (b : Bytes) : String := String.ofList ((encode b).map fun x => Char.ofNat x.toNat)

def sextet (offset : Nat) (b : UInt8) : Except Fault Nat :=
  match sextet? b with
  | some n => .ok n
  | none => .error (.symbol b offset)

/-- The values of the symbols in the last group, and the number of padding bytes after them. Padding
stands neither in the first two places nor before a symbol. -/
def lastGroup (offset : Nat) : Bytes → Except Fault (List Nat × Nat)
  | [] => .ok ([], 0)
  | a :: rest => do
    let a ← sextet offset a
    match rest with
    | [] => .ok ([a], 0)
    | b :: rest => do
      let b ← sextet (offset + 1) b
      match rest with
      | [] => .ok ([a, b], 0)
      | [c] => if c = pad then .ok ([a, b], 1) else do .ok ([a, b, ← sextet (offset + 2) c], 0)
      | c :: d :: _ =>
        if c = pad then
          if d = pad then .ok ([a, b], 2) else .error (.symbol pad (offset + 2))
        else do
          let c ← sextet (offset + 2) c
          if d = pad then .ok ([a, b, c], 1) else do .ok ([a, b, c, ← sextet (offset + 3) d], 0)

/-- The bytes that the symbols of the last group spell, and the number that their spare bits spell. -/
def groupBytes : List Nat → Bytes × Nat
  | [a, b] =>
    let n := a * 64 + b
    ([UInt8.ofNat (n / 16)], n % 16)
  | [a, b, c] =>
    let n := (a * 64 + b) * 64 + c
    ([UInt8.ofNat (n / 1024), UInt8.ofNat (n / 4)], n % 4)
  | [a, b, c, d] =>
    let n := ((a * 64 + b) * 64 + c) * 64 + d
    ([UInt8.ofNat (n / 65536), UInt8.ofNat (n / 256), UInt8.ofNat n], 0)
  | _ => ([], 0)

/-- Reads the last group of one to four bytes. -/
def decodeLast (spare : SpareBits) (offset : Nat) (group : Bytes) : Except Fault Bytes := do
  let (symbols, pads) ← lastGroup offset group
  if symbols.length < 2 then throw (.length (offset + symbols.length))
  if (symbols.length + pads) % 4 ≠ 0 then throw .padding
  let (bytes, rest) := groupBytes symbols
  if spare = .mustBeZero ∧ rest ≠ 0 then
    throw (.lastSymbol (group.getD (symbols.length - 1) 0) (offset + symbols.length - 1))
  return bytes

/-- Reads whole groups of four as long as something follows them, then the last group. `done` holds the
bytes read before, last first. -/
def decodeGroups (spare : SpareBits) (offset : Nat) (done : Bytes) : Bytes → Except Fault Bytes
  | a :: b :: c :: d :: e :: rest => do
    let a ← sextet offset a
    let b ← sextet (offset + 1) b
    let c ← sextet (offset + 2) c
    let d ← sextet (offset + 3) d
    let n := ((a * 64 + b) * 64 + c) * 64 + d
    decodeGroups spare (offset + 4)
      (UInt8.ofNat n :: UInt8.ofNat (n / 256) :: UInt8.ofNat (n / 65536) :: done) (e :: rest)
  | [] => .ok done.reverse
  | group => do return done.reverse ++ (← decodeLast spare offset group)

/-- Reads a whole text, and names the first fault with the offset of the byte at fault. One byte left over after whole
groups is looked at first: if it is neither a symbol nor padding, it is the fault. -/
def decode (spare : SpareBits) (text : Bytes) : Except Fault Bytes := do
  if text.length % 4 = 1 then
    let last := text.getLast?.getD 0
    if last ≠ pad then discard (sextet (text.length - 1) last)
  decodeGroups spare 0 [] text

end ReplyGateway.Base64
