import ReplyGateway.Base64

namespace ReplyGateway.Cipher

def blockSize : Nat := 16

def keySize : Nat := 32

/-- What is wrong with the text of a key. -/
inductive KeyFault
  | encoding (fault : Base64.Fault)
  | size (bytes : Nat)
  deriving DecidableEq, Repr

def KeyFault.message : KeyFault → String
  | .encoding fault => fault.message
  | .size bytes => s!"expected {keySize} bytes, got {bytes}"

/-- What is wrong with a ciphertext, or with a plaintext that should become one. -/
inductive CiphertextFault
  | encoding (fault : Base64.Fault)
  | size (bytes : Nat)
  | plaintextTooLarge
  deriving DecidableEq, Repr

def CiphertextFault.message : CiphertextFault → String
  | .encoding fault => fault.message
  | .size bytes => s!"length {bytes} is not a positive multiple of {blockSize}"
  | .plaintextTooLarge => "plaintext too large"

/-- What keeps a payload from being encrypted or decrypted. -/
inductive Fault
  | key (fault : KeyFault)
  | ciphertext (fault : CiphertextFault)
  | padding
  | truncated (needed actual : Nat)
  deriving DecidableEq, Repr

def Fault.message : Fault → String
  | .key fault => s!"Invalid encoding key: {fault.message}"
  | .ciphertext fault => s!"Invalid ciphertext: {fault.message}"
  | .padding => "Decryption failed: bad padding"
  | .truncated needed actual => s!"Decrypted payload truncated: need {needed} bytes, have {actual}"

end ReplyGateway.Cipher
