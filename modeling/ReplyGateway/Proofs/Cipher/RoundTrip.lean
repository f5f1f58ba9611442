import Mathlib
import ReplyGateway.Cipher
import ReplyGateway.Proofs.Base64

namespace ReplyGateway.Cipher

/-- Padded bytes fill whole blocks. -/
theorem length_pad_mod (b : Bytes) : (pad b).length % blockSize = 0 := by
  rw [length_pad, Nat.mul_mod_right]

theorem join_split_pad (b : Bytes) : Aes.Block.join (Aes.Block.split (pad b)) = pad b :=
  Aes.Block.join_split (length_pad_mod b)

theorem Key.length_encryptBlocks (key : Key) (blocks : List Aes.Block) :
    (key.encryptBlocks blocks).length = blocks.length := Aes.Chaining.length_encrypt ..

/-- The encrypted blocks of a frame. -/
def Key.sealedBlocks (key : Key) (frame : Frame) : List Aes.Block :=
  key.encryptBlocks (Aes.Block.split (pad frame.toBytes))

theorem Key.decode_seal (key : Key) (frame : Frame) :
    Base64.decode .mustBeZero (Bytes.ofString (key.seal frame)) = .ok (Aes.Block.join (key.sealedBlocks frame)) := by
  rw [Key.seal, Base64.ofString_encodeText, Base64.decode_encode, sealedBlocks]

theorem Key.join_decryptBlocks_sealedBlocks (key : Key) (frame : Frame) :
    Aes.Block.join (key.decryptBlocks (key.sealedBlocks frame)) = pad frame.toBytes := by
  rw [sealedBlocks, decryptBlocks_encryptBlocks, join_split_pad]

/-- Padding leaves no frame without a block. -/
theorem Key.length_join_sealedBlocks (key : Key) (frame : Frame) :
    (Aes.Block.join (key.sealedBlocks frame)).length = (pad frame.toBytes).length := by
  rw [← join_split_pad, Aes.Block.length_join, Aes.Block.length_join, sealedBlocks, length_encryptBlocks]

/-- Undoing Base64 and the block cipher of a sealed frame gives the padded frame. -/
theorem Key.unseal_seal (key : Key) (frame : Frame) : key.unseal (key.seal frame) = .ok (pad frame.toBytes) := by
  have size := key.length_join_sealedBlocks frame
  have positive : (pad frame.toBytes).length ≠ 0 := by rw [length_pad, blockSize]; omega
  have whole : ¬((pad frame.toBytes).length = 0 ∨ (pad frame.toBytes).length % blockSize ≠ 0) := by
    simp [positive, length_pad_mod]
  have untrimmed : trim (key.seal frame) = key.seal frame := Base64.trim_encodeText _
  rw [Key.unseal, untrimmed, decode_seal]
  simp only [size, if_neg whole, Aes.Block.split_join, join_decryptBlocks_sealedBlocks]

theorem encrypt_eq_seal {text : String} {key : Key} (readable : Key.decode text = .ok key) (random : Aes.Block)
    {content : Bytes} (small : content.length < Frame.sizeLimit) (receiver : String) :
    encrypt random content text receiver = .ok (key.seal ⟨random, content, Bytes.ofString receiver⟩) := by
  rw [encrypt, readable]
  exact if_neg (Nat.not_le.2 small)

/-- Whoever has the key reads what is sealed with it. -/
theorem decrypt_seal {text : String} {key : Key} (readable : Key.decode text = .ok key) {frame : Frame}
    (small : frame.content.length < Frame.sizeLimit) : decrypt text (key.seal frame) = .ok frame.content := by
  simp only [decrypt, readable, Key.unseal_seal, unpad?_pad]
  exact frame.content?_toBytes small

/-- Two texts may stand for one key, since the spare bits of the last letter and blanks around it do not count.
Below Base64 and the block cipher lie the random bytes, the size of the content in four bytes, the content and
the receiver, filled up by one to sixteen bytes that tell their number. -/
theorem decrypt_encrypt_of_sameKey {text text' : String} {key : Key} (sender : Key.decode text = .ok key)
    (reader : Key.decode text' = .ok key) (random : Aes.Block) {content : Bytes} (small : content.length < 2 ^ 32)
    (receiver : String) :
    ∃ ciphertext, encrypt random content text receiver = .ok ciphertext ∧ decrypt text' ciphertext = .ok content ∧
      ∃ blocks filling, Base64.decode .mustBeZero (Bytes.ofString ciphertext) = .ok (Aes.Block.join blocks) ∧
        1 ≤ filling ∧ filling ≤ 16 ∧
        Aes.Block.join (key.decryptBlocks blocks) =
          random.toBytes ++ Bytes.bigEndian 4 content.length ++ content ++ Bytes.ofString receiver ++
            List.replicate filling (UInt8.ofNat filling) ∧
        (random.toBytes ++ Bytes.bigEndian 4 content.length ++ content ++ Bytes.ofString receiver ++
            List.replicate filling (UInt8.ofNat filling)).length % 16 = 0 := by
  let frame : Frame := ⟨random, content, Bytes.ofString receiver⟩
  have fits : frame.content.length < Frame.sizeLimit := small
  have bounds := padSize_bounds frame.toBytes.length
  refine ⟨key.seal frame, encrypt_eq_seal sender random fits receiver, decrypt_seal reader fits,
    key.sealedBlocks frame, padSize frame.toBytes.length, key.decode_seal frame, bounds.1, bounds.2, ?_, ?_⟩
  · exact key.join_decryptBlocks_sealedBlocks frame
  · exact length_pad_mod frame.toBytes

def Key.ascending : Key where
  first := ⟨⟨0, 1, 2, 3⟩, ⟨4, 5, 6, 7⟩, ⟨8, 9, 10, 11⟩, ⟨12, 13, 14, 15⟩⟩
  second := ⟨⟨16, 17, 18, 19⟩, ⟨20, 21, 22, 23⟩, ⟨24, 25, 26, 27⟩, ⟨28, 29, 30, 31⟩⟩

/-- The texts differ in a spare bit and in blanks. -/
theorem decrypt_encrypt_of_sameKey_spareBit :
    Key.decode "AAECAwQFBgcICQoLDA0ODxAREhMUFRYXGBkaGxwdHh8" = .ok .ascending ∧
      Key.decode " AAECAwQFBgcICQoLDA0ODxAREhMUFRYXGBkaGxwdHh9\n" = .ok .ascending ∧
      ∃ ciphertext, encrypt Key.ascending.first [104, 105] "AAECAwQFBgcICQoLDA0ODxAREhMUFRYXGBkaGxwdHh8" "wx1" =
          .ok ciphertext ∧
        decrypt " AAECAwQFBgcICQoLDA0ODxAREhMUFRYXGBkaGxwdHh9\n" ciphertext = .ok [104, 105] := by
  have sender : Key.decode "AAECAwQFBgcICQoLDA0ODxAREhMUFRYXGBkaGxwdHh8" = .ok .ascending := by cbv
  have reader : Key.decode " AAECAwQFBgcICQoLDA0ODxAREhMUFRYXGBkaGxwdHh9\n" = .ok .ascending := by cbv
  have small : ([104, 105] : Bytes).length < 2 ^ 32 := by decide
  obtain ⟨ciphertext, encrypted, decrypted, _⟩ :=
    decrypt_encrypt_of_sameKey sender reader Key.ascending.first small "wx1"
  exact ⟨sender, reader, ciphertext, encrypted, decrypted⟩

end ReplyGateway.Cipher
