import ReplyGateway.Bytes

namespace ReplyGateway

/-- What stands for bytes that are no character. -/
def replacement : Char := '\uFFFD'

/-- A character that has begun. -/
structure PartialChar where
  /-- The bits so far. -/
  bits : Nat
  /-- How many bytes follow the next one. -/
  more : Nat
  /-- The least next byte that goes on. -/
  low : Nat
  /-- The greatest next byte that goes on. -/
  high : Nat

namespace PartialChar

/-- What a byte begins, if it begins a character of several bytes. Next bytes that would make a character
longer than it need be, or no character at all, do not go on. -/
def ofLead? (b : Nat) : Option PartialChar :=
  if 0xC2 ≤ b ∧ b ≤ 0xDF then some ⟨b - 0xC0, 0, 0x80, 0xBF⟩
  else if b = 0xE0 then some ⟨0, 1, 0xA0, 0xBF⟩
  else if b = 0xED then some ⟨0xD, 1, 0x80, 0x9F⟩
  else if 0xE1 ≤ b ∧ b ≤ 0xEF then some ⟨b - 0xE0, 1, 0x80, 0xBF⟩
  else if b = 0xF0 then some ⟨0, 2, 0x90, 0xBF⟩
  else if 0xF1 ≤ b ∧ b ≤ 0xF3 then some ⟨b - 0xF0, 2, 0x80, 0xBF⟩
  else if b = 0xF4 then some ⟨4, 2, 0x80, 0x8F⟩
  else none

def bitsWith (p : PartialChar) (b : Nat) : Nat := p.bits * 64 + b % 64

end PartialChar

/-- What a byte at the start of a character gives: characters, and one that has begun. -/
def lossyLead (b : Nat) : List Char × Option PartialChar :=
  if b < 0x80 then ([Char.ofNat b], none)
  else
    match PartialChar.ofLead? b with
    | some p => ([], some p)
    | none => ([replacement], none)

/-- What a byte gives after a character that may have begun. -/
def lossyByte (begun : Option PartialChar) (b : Nat) : List Char × Option PartialChar :=
  match begun with
  | none => lossyLead b
  | some p =>
    if p.low ≤ b ∧ b ≤ p.high then
      match p.more with
      | 0 => ([Char.ofNat (p.bitsWith b)], none)
      | more + 1 => ([], some ⟨p.bitsWith b, more, 0x80, 0xBF⟩)
    else
      let (cs, begun) := lossyLead b
      (replacement :: cs, begun)

def lossyChars (begun : Option PartialChar) : Bytes → List Char
  | [] => if begun.isSome then [replacement] else []
  | b :: rest =>
    let (cs, begun) := lossyByte begun b.toNat
    cs ++ lossyChars begun rest

/-- The text that bytes spell in UTF-8, also where they are ill-formed: every longest beginning of a character that is
not completed becomes a replacement character, and so does every byte that begins no character. -/
def lossyText (b : Bytes) : String := String.ofList (lossyChars none b)

end ReplyGateway
