import ReplyGateway.Aes.Chaining
import ReplyGateway.Aes.Rounds
import ReplyGateway.Cipher.Frame
import ReplyGateway.Cipher.Key
import ReplyGateway.Cipher.Padding

namespace ReplyGateway.Cipher

def Key.roundKeys (key : Key) : Aes.RoundKeys := .ofBlocks key.first key.second

def Key.encryptBlocks (key : Key) (blocks : List Aes.Block) : List Aes.Block :=
  let keys := key.roundKeys
  Aes.Chaining.encrypt keys.encrypt key.first blocks

def Key.decryptBlocks (key : Key) (blocks : List Aes.Block) : List Aes.Block :=
  let keys := key.roundKeys
  Aes.Chaining.decrypt keys.decrypt key.first blocks

theorem Key.decryptBlocks_encryptBlocks (key : Key) (blocks : List Aes.Block) :
    key.decryptBlocks (key.encryptBlocks blocks) = blocks :=
  Aes.Chaining.decrypt_encrypt key.roundKeys.decrypt_encrypt key.first blocks

theorem Key.encryptBlocks_decryptBlocks (key : Key) (blocks : List Aes.Block) :
    key.encryptBlocks (key.decryptBlocks blocks) = blocks :=
  Aes.Chaining.encrypt_decrypt key.roundKeys.encrypt_decrypt key.first blocks

/-- The Base64 text of a frame, padded and encrypted. -/
def Key.seal (key : Key) (frame : Frame) : String :=
  Base64.encodeText (Aes.Block.join (key.encryptBlocks (Aes.Block.split (pad frame.toBytes))))

/-- The padded frame of a ciphertext, with the Base64 and the block cipher undone. -/
def Key.unseal (key : Key) (ciphertext : String) : Except CiphertextFault Bytes :=
  match Base64.decode .mustBeZero (Bytes.ofString (trim ciphertext)) with
  | .error fault => .error (.encoding fault)
  | .ok b =>
    if b.length = 0 ∨ b.length % blockSize ≠ 0 then .error (.size b.length)
    else .ok (Aes.Block.join (key.decryptBlocks (Aes.Block.split b)))

/-- Encrypts a content for a receiver under a configured key: a frame around the content is padded, encrypted with AES
in cipher block chaining, which starts with the first half of the key, and written in Base64. -/
def encrypt (random : Aes.Block) (content : Bytes) (key receiver : String) : Except Fault String :=
  match Key.decode key with
  | .error fault => .error (.key fault)
  | .ok key =>
    if Frame.sizeLimit ≤ content.length then .error (.ciphertext .plaintextTooLarge)
    else .ok (key.seal ⟨random, content, Bytes.ofString receiver⟩)

/-- Decrypts the text of a payload under a configured key. -/
def decrypt (key ciphertext : String) : Except Fault Bytes :=
  match Key.decode key with
  | .error fault => .error (.key fault)
  | .ok key =>
    match key.unseal ciphertext with
    | .error fault => .error (.ciphertext fault)
    | .ok padded =>
      match unpad? padded with
      | none => .error .padding
      | some b => Frame.content? b

end ReplyGateway.Cipher
