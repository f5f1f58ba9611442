import ReplyGateway.Bytes

namespace ReplyGateway.Sha1

/-- The five chaining words. -/
structure Chain where
  a : UInt32
  b : UInt32
  c : UInt32
  d : UInt32
  e : UInt32
  deriving DecidableEq, Repr

def Chain.start : Chain := ⟨0x67452301, 0xEFCDAB89, 0x98BADCFE, 0x10325476, 0xC3D2E1F0⟩

def rotateLeft (x n : UInt32) : UInt32 := (x <<< n) ||| (x >>> (32 - n))

/-- The words that a block spells, last first. -/
def wordsReversed : List UInt32 → Bytes → List UInt32
  | done, p :: q :: r :: s :: rest =>
    wordsReversed (((p.toUInt32 <<< 24) ||| (q.toUInt32 <<< 16) ||| (r.toUInt32 <<< 8) ||| s.toUInt32) :: done) rest
  | done, _ => done

/-- Extends a schedule, last word first, by `n` words. -/
def extendSchedule : Nat → List UInt32 → List UInt32
  | 0, words => words
  | n + 1, words =>
    extendSchedule n
      (rotateLeft (words.getD 2 0 ^^^ words.getD 7 0 ^^^ words.getD 13 0 ^^^ words.getD 15 0) 1 :: words)

/-- The eighty words that a block of 64 bytes contributes, one a round. -/
def schedule (block : Bytes) : List UInt32 := (extendSchedule 64 (wordsReversed [] block)).reverse

/-- The mixing function and the constant of a round. -/
def roundTerm (round : Nat) (s : Chain) : UInt32 :=
  if round < 20 then ((s.b &&& s.c) ||| (~~~ s.b &&& s.d)) + 0x5A827999
  else if round < 40 then (s.b ^^^ s.c ^^^ s.d) + 0x6ED9EBA1
  else if round < 60 then ((s.b &&& s.c) ||| (s.b &&& s.d) ||| (s.c &&& s.d)) + 0x8F1BBCDC
  else (s.b ^^^ s.c ^^^ s.d) + 0xCA62C1D6

/-- The rounds from number `round` on, one for each word. -/
def rounds : Nat → Chain → List UInt32 → Chain
  | _, s, [] => s
  | round, s, w :: words =>
    rounds (round + 1) ⟨rotateLeft s.a 5 + roundTerm round s + s.e + w, s.a, rotateLeft s.b 30, s.c, s.d⟩ words

/-- Mixes one block of 64 bytes into the chaining words. -/
def Chain.compress (s : Chain) (block : Bytes) : Chain :=
  let t := rounds 0 s (schedule block)
  ⟨s.a + t.a, s.b + t.b, s.c + t.c, s.d + t.d, s.e + t.e⟩

def Chain.toBytes (s : Chain) : Bytes :=
  [s.a, s.b, s.c, s.d, s.e].flatMap fun w => Bytes.bigEndian 4 w.toNat

@[simp] theorem Chain.length_toBytes (s : Chain) : s.toBytes.length = 20 := by simp [toBytes]

/-- What follows a message of `size` bytes, up to the end of its last block: a one bit, zeros, and the
number of its bits in eight bytes. -/
def padding (size : Nat) : Bytes :=
  0x80 :: (List.replicate ((119 - size % 64) % 64) 0 ++ Bytes.bigEndian 8 (8 * size))

/-- A padded message ends at the end of a block. -/
theorem size_add_length_padding (size : Nat) : (size + (padding size).length) % 64 = 0 := by
  simp [padding]; omega

/-- SHA-1 of a whole message: the message is padded to blocks of 64 bytes and every block is mixed into five chaining
words. -/
def digest (message : Bytes) : Bytes :=
  (((message ++ padding message.length).blocks 64).foldl Chain.compress .start).toBytes

@[simp] theorem length_digest (message : Bytes) : (digest message).length = 20 := by simp [digest]

end ReplyGateway.Sha1
