import ReplyGateway.Bytes
import ReplyGateway.Text.Digit

namespace ReplyGateway.Json

def hexValue? (b : UInt8) : Option Nat := digit? 16 b.toNat

def hexValue4? (a b c d : UInt8) : Option Nat := do
  return ((← hexValue? a) * 16 + (← hexValue? b)) * 256 + ((← hexValue? c) * 16 + (← hexValue? d))

/-- The byte that a backslash with one letter stands for. -/
def unescape? (letter : UInt8) : Option UInt8 :=
  match letter with
  | 34 => some 34
  | 92 => some 92
  | 47 => some 47
  | 98 => some 8
  | 102 => some 12
  | 110 => some 10
  | 114 => some 13
  | 116 => some 9
  | _ => none

namespace Quoted

/-- Splits the bytes after an opening quote at the closing one. They are kept as they stand, with their escapes
checked for form only. `done` holds those before, last first. -/
def scan (done : Bytes) : Bytes → Option (Bytes × Bytes)
  | [] => none
  | 34 :: rest => some (done.reverse, rest)
  | 92 :: 117 :: a :: b :: c :: d :: rest =>
    if (hexValue4? a b c d).isSome then scan (d :: c :: b :: a :: 117 :: 92 :: done) rest else none
  | 92 :: letter :: rest => if (unescape? letter).isSome then scan (letter :: 92 :: done) rest else none
  | b :: rest => if b < 32 ∨ b = 92 then none else scan (b :: done) rest

/-- The UTF-8 bytes of the character with a code, last first. -/
def codeBytesReversed (code : Nat) : Bytes := (String.utf8EncodeChar (Char.ofNat code)).reverse

/-- The bytes of the text, if every escape stands for a character. A code from the first half of the
surrogates has to be followed by one from the second half. -/
def unescapeOnto (done : Bytes) : Bytes → Option Bytes
  | [] => some done.reverse
  | 92 :: 117 :: a :: b :: c :: d :: rest =>
    match hexValue4? a b c d with
    | none => none
    | some code =>
      if code < 0xD800 ∨ 0xDFFF < code then unescapeOnto (codeBytesReversed code ++ done) rest
      else if 0xDC00 ≤ code then none
      else
        match rest with
        | 92 :: 117 :: e :: f :: g :: h :: rest =>
          match hexValue4? e f g h with
          | none => none
          | some low =>
            if 0xDC00 ≤ low ∧ low ≤ 0xDFFF then
              unescapeOnto (codeBytesReversed (0x10000 + (code - 0xD800) * 1024 + (low - 0xDC00)) ++ done) rest
            else none
        | _ => none
  | 92 :: letter :: rest =>
    match unescape? letter with
    | none => none
    | some b => unescapeOnto (b :: done) rest
  | b :: rest => unescapeOnto (b :: done) rest

/-- The text that bytes between quotes stand for. -/
def decode (raw : Bytes) : Option String := do Bytes.text? (← unescapeOnto [] raw)

/-- How a character is written between quotes: a quote, a backslash and every control character are escaped. -/
def encodeChar (c : Char) : List Char :=
  if c = '"' then ['\\', '"']
  else if c = '\\' then ['\\', '\\']
  else if c = '\x08' then ['\\', 'b']
  else if c = '\t' then ['\\', 't']
  else if c = '\n' then ['\\', 'n']
  else if c = '\x0c' then ['\\', 'f']
  else if c = '\r' then ['\\', 'r']
  else if c.toNat < 32 then ['\\', 'u', '0', '0', Nat.digitChar (c.toNat / 16), Nat.digitChar (c.toNat % 16)]
  else [c]

/-- A text with its quotes. -/
def encode (s : String) : List Char := '"' :: (s.toList.flatMap encodeChar ++ ['"'])

end Quoted
end ReplyGateway.Json
