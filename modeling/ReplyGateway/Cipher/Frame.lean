import ReplyGateway.Aes.Block
import ReplyGateway.Cipher.Fault

namespace ReplyGateway.Cipher

/-- The plaintext of an encrypted payload: sixteen random bytes, the size of the content in four bytes, the content,
and the name of the receiver. -/
structure Frame where
  random : Aes.Block
  content : Bytes
  receiver : Bytes

namespace Frame

/-- The number of random bytes in front. -/
def randomSize : Nat := 16

/-- The number of bytes that give the size of the content. -/
def sizeWidth : Nat := 4

def headerSize : Nat := randomSize + sizeWidth

/-- The size from which on a content is too large for the bytes that give its size. -/
def sizeLimit : Nat := Nat.pow 256 sizeWidth

def toBytes (f : Frame) : Bytes :=
  f.random.toBytes ++ Bytes.bigEndian sizeWidth f.content.length ++ f.content ++ f.receiver

/-- The content of a frame; what follows it is not looked at. -/
def content? (b : Bytes) : Except Fault Bytes :=
  if b.length < headerSize then .error (.truncated headerSize b.length)
  else
    let size := Bytes.toNat ((b.drop randomSize).take sizeWidth)
    if b.length < headerSize + size then .error (.truncated (headerSize + size) b.length)
    else .ok ((b.drop headerSize).take size)

/-- The content of a frame can be read back, whatever follows the frame. -/
theorem content?_toBytes_append (f : Frame) (h : f.content.length < sizeLimit) (rest : Bytes) :
    content? (f.toBytes ++ rest) = .ok f.content := by
  have size : Bytes.toNat (Bytes.bigEndian 4 f.content.length) = f.content.length :=
    Bytes.toNat_bigEndian h
  have field : ((f.toBytes ++ rest).drop 16).take 4 = Bytes.bigEndian 4 f.content.length := by
    simp [toBytes, sizeWidth, List.drop_append, List.take_append]
  have header : (f.toBytes ++ rest).length = 20 + f.content.length + f.receiver.length + rest.length := by
    simp [toBytes, sizeWidth]; omega
  have content : ((f.toBytes ++ rest).drop 20).take f.content.length = f.content := by
    have random : f.random.toBytes.drop 20 = [] := rfl
    simp [toBytes, sizeWidth, List.drop_append, random]
  simp only [content?, headerSize, randomSize, sizeWidth, field, size, content]
  rw [if_neg (by rw [header]; omega), if_neg (by rw [header]; omega)]

theorem content?_toBytes (f : Frame) (h : f.content.length < sizeLimit) : content? f.toBytes = .ok f.content := by
  simpa using content?_toBytes_append f h []

end Frame
end ReplyGateway.Cipher
