import ReplyGateway.Aes.Block
import ReplyGateway.Cipher.Fault
import ReplyGateway.Text.Blank

namespace ReplyGateway.Cipher

/-- An encryption key: its 32 bytes as two blocks. -/
structure Key where
  first : Aes.Block
  second : Aes.Block
  deriving DecidableEq, Repr

namespace Key

def toBytes (key : Key) : Bytes := key.first.toBytes ++ key.second.toBytes

@[simp] theorem length_toBytes (key : Key) : key.toBytes.length = 32 := rfl

/-- The key with the given bytes, which have to be 32. -/
def ofBytes? (b : Bytes) : Option Key :=
  match b.length, Aes.Block.split b with
  | 32, [first, second] => some ⟨first, second⟩
  | _, _ => none

theorem ofBytes?_toBytes (key : Key) : ofBytes? key.toBytes = some key := rfl

/-- A key is found by its bytes and by no others. -/
theorem ofBytes?_eq_some_iff {b : Bytes} {key : Key} : ofBytes? b = some key ↔ b = key.toBytes := by
  constructor
  · intro h
    unfold ofBytes? at h
    split at h
    · rename_i length split_eq
      rw [← Aes.Block.join_split (b := b) (by omega), split_eq]
      obtain rfl := Option.some.inj h
      simp [toBytes]
    · cases h
  · rintro rfl
    exact ofBytes?_toBytes key

theorem ofBytes?_eq_none_iff {b : Bytes} : ofBytes? b = none ↔ b.length ≠ 32 := by
  constructor
  · intro h length
    obtain ⟨blocks, rfl⟩ := Aes.Block.exists_eq_join (b := b) (n := 2) length
    rw [Aes.Block.length_join] at length
    match blocks, length with
    | [p, q], _ => exact nomatch (ofBytes?_toBytes ⟨p, q⟩).symm.trans h
  · intro h
    unfold ofBytes?
    split
    · contradiction
    · rfl

/-- Reads the text of a key: Base64 without the padding byte at its end, blanks around it allowed, the bits of the
last letter beyond the last byte free. -/
def decode (text : String) : Except KeyFault Key :=
  match Base64.decode .ignored (Bytes.ofString (trim text) ++ [Base64.pad]) with
  | .error fault => .error (.encoding fault)
  | .ok b =>
    match ofBytes? b with
    | some key => .ok key
    | none => .error (.size b.length)

end Key
end ReplyGateway.Cipher
