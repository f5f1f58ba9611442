import ReplyGateway.Aes.Block

namespace ReplyGateway.Aes

/-- The key added before the first round, the keys of the rounds that mix columns, and the key of the
last round, which does not. -/
structure RoundKeys where
  first : Block
  middle : List Block
  last : Block

namespace RoundKeys

/-- The columns of a block, each added to all before it and to a seed. -/
def cascade (seed : Column) (p : Block) : Block :=
  let c0 := p.c0 ^^^ seed
  let c1 := p.c1 ^^^ c0
  let c2 := p.c2 ^^^ c1
  ⟨c0, c1, c2, p.c3 ^^^ c2⟩

/-- The round key two places after `before`, where `previous` is the one between them, at an even place. -/
def nextEven (constant : UInt8) (before previous : Block) : Block :=
  let p := previous.c3
  cascade ⟨substitute p.b ^^^ constant, substitute p.c, substitute p.d, substitute p.a⟩ before

/-- The round key two places after `before`, where `previous` is the one between them, at an odd place. -/
def nextOdd (before previous : Block) : Block := cascade (previous.c3.map substitute) before

/-- The next `n` round keys after two given ones; the flag says whether the next place is even. -/
def expand : Nat → Bool → UInt8 → Block → Block → List Block
  | 0, _, _, _, _ => []
  | n + 1, true, constant, before, previous =>
    let key := nextEven constant before previous
    key :: expand n false (double constant) previous key
  | n + 1, false, constant, before, previous =>
    let key := nextOdd before previous
    key :: expand n true constant previous key

/-- The fifteen round keys of a key of 256 bits. -/
def ofBlocks (first second : Block) : RoundKeys :=
  let keys := expand 13 true 1 first second
  ⟨first, second :: keys.dropLast, keys.getLastD first⟩

def encryptRound (key p : Block) : Block := p.scramble.map .mix ^^^ key

def decryptRound (key p : Block) : Block := ((p ^^^ key).map .unmix).unscramble

theorem decryptRound_encryptRound (key p : Block) : decryptRound key (encryptRound key p) = p := by
  rw [decryptRound, encryptRound, Block.xor_xor_self, Block.map_map_of_leftInverse Column.unmix_mix,
    Block.unscramble_scramble]

theorem encryptRound_decryptRound (key p : Block) : encryptRound key (decryptRound key p) = p := by
  rw [decryptRound, encryptRound, Block.scramble_unscramble, Block.map_map_of_leftInverse Column.mix_unmix,
    Block.xor_xor_self]

/-- The map of one block by AES with the given round keys. -/
def encrypt (keys : RoundKeys) (p : Block) : Block :=
  (keys.middle.foldl (fun p key => encryptRound key p) (p ^^^ keys.first)).scramble ^^^ keys.last

def decrypt (keys : RoundKeys) (p : Block) : Block :=
  keys.middle.foldr decryptRound (p ^^^ keys.last).unscramble ^^^ keys.first

theorem foldr_decryptRound_foldl (middle : List Block) (p : Block) :
    middle.foldr decryptRound (middle.foldl (fun p key => encryptRound key p) p) = p := by
  induction middle generalizing p with
  | nil => rfl
  | cons key rest ih => rw [List.foldl_cons, List.foldr_cons, ih, decryptRound_encryptRound]

theorem foldl_encryptRound_foldr (middle : List Block) (p : Block) :
    middle.foldl (fun p key => encryptRound key p) (middle.foldr decryptRound p) = p := by
  induction middle generalizing p with
  | nil => rfl
  | cons key rest ih => rw [List.foldr_cons, List.foldl_cons, encryptRound_decryptRound, ih]

/-- Decryption undoes encryption of a block, and encryption undoes decryption. -/
theorem decrypt_encrypt (keys : RoundKeys) (p : Block) : keys.decrypt (keys.encrypt p) = p := by
  rw [decrypt, encrypt, Block.xor_xor_self, Block.unscramble_scramble, foldr_decryptRound_foldl,
    Block.xor_xor_self]

theorem encrypt_decrypt (keys : RoundKeys) (p : Block) : keys.encrypt (keys.decrypt p) = p := by
  rw [decrypt, encrypt, Block.xor_xor_self, foldl_encryptRound_foldr, Block.scramble_unscramble,
    Block.xor_xor_self]

end RoundKeys
end ReplyGateway.Aes
