import Mathlib
import ReplyGateway.Proofs.Base64.Canonical
import ReplyGateway.Proofs.Cipher.RoundTrip

namespace ReplyGateway.Cipher

section Unsealing

/-- The ciphertext is the text of these bytes, encrypted. They have to be whole blocks, and at least one. -/
structure Key.Conceals (key : Key) (ciphertext : String) (padded : Bytes) : Prop where
  positive : padded ≠ []
  whole : padded.length % 16 = 0
  written : trim ciphertext = Base64.encodeText (Aes.Block.join (key.encryptBlocks (Aes.Block.split padded)))

/-- A text has to be in the only form that its bytes have: where spare bits have to be zero, Base64 has no other. -/
theorem decode_ofString_eq_ok_iff {text : String} {b : Bytes} :
    Base64.decode .mustBeZero (Bytes.ofString text) = .ok b ↔ text = Base64.encodeText b := by
  rw [Base64.decode_eq_ok_iff, ← Base64.ofString_encodeText]
  constructor
  · intro same
    have read := Bytes.text?_ofString text
    rw [same, Bytes.text?_ofString] at read
    exact (Option.some.inj read).symm
  · rintro rfl
    rfl

theorem Key.length_join_encryptBlocks (key : Key) {b : Bytes} (whole : b.length % 16 = 0) :
    (Aes.Block.join (key.encryptBlocks (Aes.Block.split b))).length = b.length := by
  have size := congrArg List.length (Aes.Block.join_split whole)
  rw [Aes.Block.length_join] at size
  rw [Aes.Block.length_join, length_encryptBlocks, size]

theorem Key.length_join_decryptBlocks (key : Key) {b : Bytes} (whole : b.length % 16 = 0) :
    (Aes.Block.join (key.decryptBlocks (Aes.Block.split b))).length = b.length := by
  have size := congrArg List.length (Aes.Block.join_split whole)
  rw [Aes.Block.length_join] at size
  have same : (key.decryptBlocks (Aes.Block.split b)).length = (Aes.Block.split b).length :=
    Aes.Chaining.length_decrypt ..
  rw [Aes.Block.length_join, same, size]

/-- What comes out of Base64 and the block cipher is what the ciphertext conceals. -/
theorem Key.unseal_eq_ok_iff {key : Key} {ciphertext : String} {padded : Bytes} :
    key.unseal ciphertext = .ok padded ↔ key.Conceals ciphertext padded := by
  constructor
  · intro unsealed
    rw [Key.unseal] at unsealed
    split at unsealed
    · cases unsealed
    rename_i b read
    split at unsealed
    · cases unsealed
    rename_i blocks
    obtain rfl := Except.ok.inj unsealed
    have positive : b.length ≠ 0 := fun empty => blocks (.inl empty)
    have whole : b.length % 16 = 0 := by_contra fun part => blocks (.inr part)
    have size := key.length_join_decryptBlocks whole
    refine ⟨?_, by rw [size, whole], ?_⟩
    · intro empty
      rw [empty] at size
      exact positive size.symm
    · rw [Aes.Block.split_join, encryptBlocks_decryptBlocks, Aes.Block.join_split whole]
      exact decode_ofString_eq_ok_iff.1 read
  · rintro ⟨positive, whole, written⟩
    have size := key.length_join_encryptBlocks whole
    have blocks : ¬(padded.length = 0 ∨ padded.length % blockSize ≠ 0) := by
      rw [List.length_eq_zero_iff]
      rintro (empty | part)
      · exact positive empty
      · exact part whole
    rw [Key.unseal, decode_ofString_eq_ok_iff.2 written]
    simp only [size, if_neg blocks]
    rw [Aes.Block.split_join, decryptBlocks_encryptBlocks, Aes.Block.join_split whole]

end Unsealing

section Padding

/-- The last byte is no number of padding bytes, or one of as many bytes at the end differs from it. -/
def IsBadlyPadded (b : Bytes) : Prop :=
  ∃ last ∈ b.getLast?, last = 0 ∨ 32 < last.toNat ∨ b.length < last.toNat ∨
    ∃ x ∈ b.drop (b.length - last.toNat), x ≠ last

/-- Padding is taken off if it is one to thirty-two bytes that all give their number. -/
theorem unpad?_eq_some_iff {b body : Bytes} :
    unpad? b = some body ↔ ∃ n, 1 ≤ n ∧ n ≤ 32 ∧ b = body ++ padBytes n := by
  constructor
  · intro unpadded
    unfold unpad? at unpadded
    split at unpadded
    · cases unpadded
    rename_i last _
    simp only at unpadded
    split at unpadded
    · cases unpadded
    rename_i bounds
    split at unpadded
    · rename_i same
      obtain rfl := Option.some.inj unpadded
      simp only [maxPad, not_or, not_lt] at bounds
      have value : padBytes last.toNat = List.replicate last.toNat last := by rw [padBytes, UInt8.ofNat_toNat]
      refine ⟨last.toNat, by omega, bounds.2.1, ?_⟩
      rw [value, ← same, List.take_append_drop]
    · cases unpadded
  · rintro ⟨n, positive, small, rfl⟩
    exact unpad?_append_padBytes positive small body

theorem unpad?_eq_none_iff {b : Bytes} (positive : b ≠ []) : unpad? b = none ↔ IsBadlyPadded b := by
  obtain ⟨last, final⟩ := Option.ne_none_iff_exists'.1 fun none => positive (List.getLast?_eq_none_iff.1 none)
  have zero : last.toNat = 0 ↔ last = 0 := by rw [← UInt8.toNat_inj]; rfl
  unfold unpad? IsBadlyPadded
  simp only [final, Option.mem_some_iff, exists_eq_left', maxPad, zero]
  by_cases bounds : last = 0 ∨ 32 < last.toNat ∨ b.length < last.toNat
  · rw [if_pos bounds]
    have : last = 0 ∨ 32 < last.toNat ∨ b.length < last.toNat ∨ ∃ x ∈ b.drop (b.length - last.toNat), x ≠ last := by
      tauto
    simp [this]
  · rw [if_neg bounds]
    have short : (b.drop (b.length - last.toNat)).length = last.toNat := by
      rw [List.length_drop]
      omega
    have filled : b.drop (b.length - last.toNat) = List.replicate last.toNat last ↔
        ∀ x ∈ b.drop (b.length - last.toNat), x = last := by
      rw [List.eq_replicate_iff]
      simp [short]
    simp only [filled]
    split
    · rename_i same
      simp only [reduceCtorEq, false_iff]
      rintro (low | high | long | ⟨x, member, differs⟩)
      · exact bounds (.inl low)
      · exact bounds (.inr (.inl high))
      · exact bounds (.inr (.inr long))
      · exact differs (same x member)
    · rename_i other
      simp only [true_iff]
      push Not at other
      exact .inr (.inr (.inr other))

end Padding

section Framing

theorem exists_eq_bigEndian {b : Bytes} (four : b.length = 4) : ∃ n < 2 ^ 32, b = Bytes.bigEndian 4 n := by
  match b, four with
  | [w, x, y, z], _ =>
    have := w.toNat_lt
    have := x.toNat_lt
    have := y.toNat_lt
    have := z.toNat_lt
    generalize number : ((w.toNat * 256 + x.toNat) * 256 + y.toNat) * 256 + z.toNat = n
    have first : UInt8.ofNat (n / 2 ^ 24) = w := Base64.ofNat_eq (by omega)
    have second : UInt8.ofNat (n / 2 ^ 16) = x := Base64.ofNat_eq (by omega)
    have third : UInt8.ofNat (n / 2 ^ 8) = y := Base64.ofNat_eq (by omega)
    have fourth : UInt8.ofNat (n / 2 ^ 0) = z := Base64.ofNat_eq (by omega)
    refine ⟨n, by omega, ?_⟩
    simp only [Bytes.bigEndian, Nat.shiftRight_eq_div_pow, first, second, third, fourth]

/-- Every frame that has a header declares a size. -/
theorem exists_header {b : Bytes} (long : 20 ≤ b.length) :
    ∃ random size rest, random.length = 16 ∧ size < 2 ^ 32 ∧ b = random ++ Bytes.bigEndian 4 size ++ rest := by
  have four : ((b.drop 16).take 4).length = 4 := by
    rw [List.length_take, List.length_drop]
    omega
  obtain ⟨size, small, field⟩ := exists_eq_bigEndian four
  refine ⟨b.take 16, size, b.drop 20, by rw [List.length_take]; omega, small, ?_⟩
  have rest : b.drop 20 = (b.drop 16).drop 4 := by rw [List.drop_drop]
  rw [← field, rest, List.append_assoc, List.take_append_drop, List.take_append_drop]

theorem Frame.content?_of_short {b : Bytes} (short : b.length < 20) : content? b = .error (.truncated 20 b.length) :=
  if_pos short

/-- Once the header is there, what matters is whether as many bytes follow it as it declares. -/
theorem Frame.content?_of_header {random rest : Bytes} {size : Nat} (sixteen : random.length = 16)
    (small : size < 2 ^ 32) :
    content? (random ++ Bytes.bigEndian 4 size ++ rest) =
      if rest.length < size then .error (.truncated (20 + size) (20 + rest.length)) else .ok (rest.take size) := by
  have declared : Bytes.toNat (Bytes.bigEndian 4 size) = size := Bytes.toNat_bigEndian small
  have field : ((random ++ Bytes.bigEndian 4 size ++ rest).drop 16).take 4 = Bytes.bigEndian 4 size := by
    simp [sixteen]
  have after : (random ++ Bytes.bigEndian 4 size ++ rest).drop 20 = rest := by
    simp [List.drop_append, sixteen]
  have length : (random ++ Bytes.bigEndian 4 size ++ rest).length = 20 + rest.length := by
    simp only [List.length_append, Bytes.length_bigEndian]
    omega
  simp only [content?, headerSize, randomSize, sizeWidth, field, declared, after, length]
  have header : ¬20 + rest.length < 16 + 4 := by omega
  have enough : 20 + rest.length < 16 + 4 + size ↔ rest.length < size := by omega
  simp only [if_neg header, enough]

/-- A frame may end anywhere behind its content: what follows the content is not looked at. -/
theorem Frame.content?_eq_ok_iff {b content : Bytes} :
    content? b = .ok content ↔
      ∃ random tail, random.length = 16 ∧ content.length < 2 ^ 32 ∧
        b = random ++ Bytes.bigEndian 4 content.length ++ content ++ tail := by
  constructor
  · intro found
    by_cases short : b.length < 20
    · rw [content?_of_short short] at found
      cases found
    · obtain ⟨random, size, rest, sixteen, small, rfl⟩ := exists_header (Nat.not_lt.1 short)
      rw [content?_of_header sixteen small] at found
      split at found
      · cases found
      rename_i enough
      obtain rfl := Except.ok.inj found
      have length : (rest.take size).length = size := by
        rw [List.length_take]
        omega
      refine ⟨random, rest.drop size, sixteen, by omega, ?_⟩
      rw [length, List.append_assoc _ (rest.take size), List.take_append_drop]
  · rintro ⟨random, tail, sixteen, small, rfl⟩
    rw [List.append_assoc _ content, content?_of_header sixteen small, List.take_left]
    exact if_neg (by simp)

end Framing

section Grammar

/-- Sixteen bytes, the size of the content, the content, whatever follows, and at most 32 bytes of padding. -/
def Frames (content padded : Bytes) : Prop :=
  ∃ random tail n, random.length = 16 ∧ content.length < 2 ^ 32 ∧ 1 ≤ n ∧ n ≤ 32 ∧
    padded = random ++ Bytes.bigEndian 4 content.length ++ content ++ tail ++ List.replicate n (UInt8.ofNat n)

/-- Why a ciphertext is refused. Every reason presupposes that there is none of those before it. -/
inductive Refuses (text ciphertext : String) : Fault → Prop
  | key {fault : KeyFault} (unreadable : Key.decode text = .error fault) : Refuses text ciphertext (.key fault)
  | encoding {key : Key} {fault : Base64.Fault} (readable : Key.decode text = .ok key)
      (other : ∀ b, trim ciphertext ≠ Base64.encodeText b)
      (unreadable : Base64.decode .mustBeZero (Bytes.ofString (trim ciphertext)) = .error fault) :
      Refuses text ciphertext (.ciphertext (.encoding fault))
  | size {key : Key} {b : Bytes} (readable : Key.decode text = .ok key)
      (written : trim ciphertext = Base64.encodeText b) (part : b = [] ∨ b.length % 16 ≠ 0) :
      Refuses text ciphertext (.ciphertext (.size b.length))
  | padding {key : Key} {padded : Bytes} (readable : Key.decode text = .ok key)
      (conceals : key.Conceals ciphertext padded) (bad : IsBadlyPadded padded) : Refuses text ciphertext .padding
  | header {key : Key} {body : Bytes} {n : Nat} (readable : Key.decode text = .ok key)
      (conceals : key.Conceals ciphertext (body ++ padBytes n)) (positive : 1 ≤ n) (small : n ≤ 32)
      (short : body.length < 20) : Refuses text ciphertext (.truncated 20 body.length)
  | content {key : Key} {random rest : Bytes} {size n : Nat} (readable : Key.decode text = .ok key)
      (conceals : key.Conceals ciphertext (random ++ Bytes.bigEndian 4 size ++ rest ++ padBytes n))
      (positive : 1 ≤ n) (small : n ≤ 32) (sixteen : random.length = 16) (declared : size < 2 ^ 32)
      (short : rest.length < size) : Refuses text ciphertext (.truncated (20 + size) (20 + rest.length))

/-- Once the key is read and the cipher undone, what is left are the padding and the frame. -/
theorem decrypt_of_conceals {text ciphertext : String} {key : Key} {padded : Bytes}
    (readable : Key.decode text = .ok key) (conceals : key.Conceals ciphertext padded) :
    decrypt text ciphertext = match unpad? padded with
      | none => .error .padding
      | some b => Frame.content? b := by
  have unsealed := Key.unseal_eq_ok_iff.2 conceals
  cases unpadded : unpad? padded with
  | none => simp only [decrypt, readable, unsealed, unpadded]
  | some b => simp only [decrypt, readable, unsealed, unpadded]

theorem decrypt_of_padBytes {text ciphertext : String} {key : Key} {body : Bytes} {n : Nat}
    (readable : Key.decode text = .ok key) (conceals : key.Conceals ciphertext (body ++ padBytes n))
    (positive : 1 ≤ n) (small : n ≤ 32) : decrypt text ciphertext = Frame.content? body := by
  rw [decrypt_of_conceals readable conceals, unpad?_append_padBytes positive small]

theorem decrypt_of_frames {text ciphertext : String} {key : Key} {content padded : Bytes}
    (readable : Key.decode text = .ok key) (conceals : key.Conceals ciphertext padded)
    (frames : Frames content padded) : decrypt text ciphertext = .ok content := by
  obtain ⟨random, tail, n, sixteen, small, positive, most, rfl⟩ := frames
  rw [decrypt_of_padBytes readable conceals positive most]
  exact Frame.content?_eq_ok_iff.2 ⟨random, tail, sixteen, small, rfl⟩

/-- The first reason to refuse a ciphertext is the one that is told. -/
theorem decrypt_of_refuses {text ciphertext : String} {fault : Fault} (refuses : Refuses text ciphertext fault) :
    decrypt text ciphertext = .error fault := by
  cases refuses with
  | key unreadable => rw [decrypt, unreadable]
  | encoding readable _ unreadable =>
    rw [decrypt, readable]
    simp only [Key.unseal, unreadable]
  | @size key b readable written part =>
    have blocks : b.length = 0 ∨ b.length % blockSize ≠ 0 := by
      rw [List.length_eq_zero_iff]
      exact part
    rw [decrypt, readable]
    simp only [Key.unseal, decode_ofString_eq_ok_iff.2 written, if_pos blocks]
  | padding readable conceals bad =>
    rw [decrypt_of_conceals readable conceals, (unpad?_eq_none_iff conceals.positive).2 bad]
  | header readable conceals positive small short =>
    rw [decrypt_of_padBytes readable conceals positive small, Frame.content?_of_short short]
  | content readable conceals positive small sixteen declared short =>
    rw [decrypt_of_padBytes readable conceals positive small, Frame.content?_of_header sixteen declared, if_pos short]

/-- One stage after the other: what a stage lets through is what the next one is about. -/
theorem framed_or_refused (text ciphertext : String) :
    (∃ key padded content, Key.decode text = .ok key ∧ key.Conceals ciphertext padded ∧ Frames content padded) ∨
      ∃ fault, Refuses text ciphertext fault := by
  cases readable : Key.decode text with
  | error fault => exact .inr ⟨_, .key readable⟩
  | ok key =>
    cases read : Base64.decode .mustBeZero (Bytes.ofString (trim ciphertext)) with
    | error fault =>
      have other : ∀ b, trim ciphertext ≠ Base64.encodeText b := by
        intro b written
        rw [decode_ofString_eq_ok_iff.2 written] at read
        cases read
      exact .inr ⟨_, .encoding readable other read⟩
    | ok b =>
      have written := decode_ofString_eq_ok_iff.1 read
      by_cases part : b = [] ∨ b.length % 16 ≠ 0
      · exact .inr ⟨_, .size readable written part⟩
      · have blocks : ¬(b.length = 0 ∨ b.length % blockSize ≠ 0) := by
          rw [List.length_eq_zero_iff]
          exact part
        have unsealed : key.unseal ciphertext = .ok (Aes.Block.join (key.decryptBlocks (Aes.Block.split b))) := by
          rw [Key.unseal, read]
          exact if_neg blocks
        have conceals := Key.unseal_eq_ok_iff.1 unsealed
        revert conceals
        generalize Aes.Block.join (key.decryptBlocks (Aes.Block.split b)) = padded
        intro conceals
        cases unpadded : unpad? padded with
        | none => exact .inr ⟨_, .padding readable conceals ((unpad?_eq_none_iff conceals.positive).1 unpadded)⟩
        | some body =>
          obtain ⟨n, positive, small, rfl⟩ := unpad?_eq_some_iff.1 unpadded
          by_cases short : body.length < 20
          · exact .inr ⟨_, .header readable conceals positive small short⟩
          · obtain ⟨random, size, rest, sixteen, declared, rfl⟩ := exists_header (Nat.not_lt.1 short)
            by_cases missing : rest.length < size
            · exact .inr ⟨_, .content readable conceals positive small sixteen declared missing⟩
            · have length : (rest.take size).length = size := by
                rw [List.length_take]
                omega
              refine .inl ⟨key, _, rest.take size, rfl, conceals, random, rest.drop size, n, sixteen, by omega,
                positive, small, ?_⟩
              rw [length, List.append_assoc _ (rest.take size), List.take_append_drop]
              rfl

end Grammar

section Checked

/-- The bytes from one place up to another; `none` if there is no such place. -/
def slice? (b : Bytes) (start stop : Nat) : Option Bytes :=
  if start ≤ stop ∧ stop ≤ b.length then some ((b.drop start).take (stop - start)) else none

/-- The sum, if it fits in 64 bits. -/
def add? (m n : Nat) : Option Nat := if m + n < 2 ^ 64 then some (m + n) else none

/-- The difference, unless it is negative. -/
def subtract? (m n : Nat) : Option Nat := if n ≤ m then some (m - n) else none

theorem slice?_eq_some {b : Bytes} {start stop : Nat} (ordered : start ≤ stop) (within : stop ≤ b.length) :
    slice? b start stop = some ((b.drop start).take (stop - start)) := if_pos ⟨ordered, within⟩

theorem add?_eq_some {m n : Nat} (fits : m + n < 2 ^ 64) : add? m n = some (m + n) := if_pos fits

theorem subtract?_eq_some {m n : Nat} (le : n ≤ m) : subtract? m n = some (m - n) := if_pos le

/-- Chaining starts with the first sixteen bytes of the key. -/
theorem slice?_toBytes (key : Key) : slice? key.toBytes 0 16 = some key.first.toBytes := rfl

/-- As `unpad?`, but `none` on the outside if a difference is negative or a slice does not exist. -/
def unpadChecked? (b : Bytes) : Option (Option Bytes) :=
  match b.getLast? with
  | none => some none
  | some last =>
    let n := last.toNat
    if n = 0 ∨ maxPad < n ∨ b.length < n then some none
    else do
      let place ← subtract? b.length n
      let body ← slice? b 0 place
      let padding ← slice? b place b.length
      return if padding.any (· ≠ last) then none else some body

/-- As `Frame.content?`, but `none` if a sum is too large or a slice does not exist. -/
def contentChecked? (b : Bytes) : Option (Except Fault Bytes) :=
  if b.length < Frame.headerSize then some (.error (.truncated Frame.headerSize b.length))
  else do
    let field ← slice? b Frame.randomSize Frame.headerSize
    let stop ← add? Frame.headerSize (Bytes.toNat field)
    if b.length < stop then return .error (.truncated stop b.length)
    let content ← slice? b Frame.headerSize stop
    return .ok content

/-- As `decrypt`, but `none` if a sum, a difference or a slice is out of range. -/
def decryptChecked? (text ciphertext : String) : Option (Except Fault Bytes) :=
  match Key.decode text with
  | .error fault => some (.error (.key fault))
  | .ok key => do
    match key.unseal ciphertext with
    | .error fault => return .error (.ciphertext fault)
    | .ok padded =>
      match ← unpadChecked? padded with
      | none => return .error .padding
      | some b => contentChecked? b

theorem unpadChecked?_eq_some (b : Bytes) : unpadChecked? b = some (unpad? b) := by
  unfold unpadChecked? unpad?
  cases final : b.getLast? with
  | none => rfl
  | some last =>
    simp only
    split
    · rfl
    rename_i bounds
    have enough : last.toNat ≤ b.length := by omega
    have before : b.length - last.toNat ≤ b.length := Nat.sub_le ..
    have size : b.length - (b.length - last.toNat) = last.toNat := by omega
    have length : (b.drop (b.length - last.toNat)).length = last.toNat := by rw [List.length_drop, size]
    have padding : (b.drop (b.length - last.toNat)).take last.toNat = b.drop (b.length - last.toNat) :=
      List.take_of_length_le length.le
    have differs : ((b.drop (b.length - last.toNat)).any (· ≠ last)) = true ↔
        b.drop (b.length - last.toNat) ≠ List.replicate last.toNat last := by
      rw [Ne, List.eq_replicate_iff, List.any_eq_true]
      simp [length]
    simp only [subtract?_eq_some enough, slice?_eq_some (Nat.zero_le _) before, slice?_eq_some before le_rfl, size,
      padding, Option.bind_eq_bind, Option.bind_some, Option.pure_def, differs, List.drop_zero, Nat.sub_zero]
    split <;> simp_all

theorem contentChecked?_eq_some (b : Bytes) : contentChecked? b = some (Frame.content? b) := by
  unfold contentChecked? Frame.content?
  split
  · rfl
  rename_i long
  simp only [Frame.headerSize, Frame.randomSize, Frame.sizeWidth, Nat.not_lt] at long
  have four : ((b.drop 16).take 4).length = 4 := by
    rw [List.length_take, List.length_drop]
    omega
  obtain ⟨size, small, field⟩ := exists_eq_bigEndian four
  have declared : Bytes.toNat (Bytes.bigEndian 4 size) = size := Bytes.toNat_bigEndian small
  have fits : 20 + size < 2 ^ 64 := by omega
  simp only [Frame.headerSize, Frame.randomSize, Frame.sizeWidth, slice?_eq_some (by omega : 16 ≤ 16 + 4) long, field,
    Nat.add_sub_cancel_left, declared, add?_eq_some fits, Option.bind_eq_bind, Option.bind_some, Option.pure_def]
  split
  · rfl
  rename_i enough
  rw [slice?_eq_some (by omega) (by omega), Nat.add_sub_cancel_left]
  rfl

/-- Whatever an attacker sends, the checks that come first keep every place within the bytes. -/
theorem decryptChecked?_eq_some (text ciphertext : String) :
    decryptChecked? text ciphertext = some (decrypt text ciphertext) := by
  unfold decryptChecked? decrypt
  cases Key.decode text with
  | error fault => rfl
  | ok key =>
    simp only [unpadChecked?_eq_some]
    cases Key.unseal key ciphertext with
    | error fault => rfl
    | ok padded =>
      cases unpadded : unpad? padded with
      | none => simp [unpadded]
      | some b => simp [unpadded, contentChecked?_eq_some]

end Checked

section Acceptance

/-- Padding up to a multiple of any size. -/
def padTo (size : Nat) (b : Bytes) : Bytes := b ++ padBytes (size - b.length % size)

theorem length_padTo_mod {size : Nat} (fits : size = 16 ∨ size = 32) (b : Bytes) : (padTo size b).length % 16 = 0 := by
  simp only [padTo, List.length_append, length_padBytes]
  rcases fits with rfl | rfl <;> omega

/-- A frame is read back also from padding to a block of 32 bytes. -/
theorem frames_padTo {size : Nat} (fits : size = 16 ∨ size = 32) {f : Frame} (small : f.content.length < 2 ^ 32) :
    Frames f.content (padTo size f.toBytes) := by
  have positive : 1 ≤ size - f.toBytes.length % size := by
    rcases fits with rfl | rfl <;> omega
  have most : size - f.toBytes.length % size ≤ 32 := by
    rcases fits with rfl | rfl <;> omega
  exact ⟨f.random.toBytes, f.receiver, _, f.random.length_toBytes, small, positive, most, rfl⟩

theorem conceals_padTo {size : Nat} (fits : size = 16 ∨ size = 32) {key : Key} {f : Frame} {ciphertext : String}
    (written : trim ciphertext =
      Base64.encodeText (Aes.Block.join (key.encryptBlocks (Aes.Block.split (padTo size f.toBytes))))) :
    key.Conceals ciphertext (padTo size f.toBytes) := by
  refine ⟨?_, length_padTo_mod fits _, written⟩
  simp [padTo, Frame.toBytes, Aes.Block.toBytes, Aes.Column.toBytes]

/-- The text has to be in its only form, the declared size is read from bytes that anybody may have sent, and the
padding may be longer than a block. -/
theorem decrypt_eq_ok_iff_framed (text ciphertext : String) :
    (∀ content, decrypt text ciphertext = .ok content ↔
      ∃ key padded, Key.decode text = .ok key ∧ key.Conceals ciphertext padded ∧ Frames content padded) ∧
    (∀ key padded padded' content content', Key.decode text = .ok key →
      key.Conceals ciphertext padded → Frames content padded →
      key.Conceals ciphertext padded' → Frames content' padded' → content = content') ∧
    (∀ key size, ∀ f : Frame, size = 16 ∨ size = 32 → Key.decode text = .ok key → f.content.length < 2 ^ 32 →
      trim ciphertext =
        Base64.encodeText (Aes.Block.join (key.encryptBlocks (Aes.Block.split (padTo size f.toBytes)))) →
      decrypt text ciphertext = .ok f.content) ∧
    (∀ fault, decrypt text ciphertext = .error fault ↔ Refuses text ciphertext fault) ∧
    (∀ key : Key, slice? key.toBytes 0 16 = some key.first.toBytes) ∧
    decryptChecked? text ciphertext = some (decrypt text ciphertext) := by
  refine ⟨?accepts, ?unique, ?paddings, ?refuses, slice?_toBytes, decryptChecked?_eq_some text ciphertext⟩
  case accepts =>
    intro content
    constructor
    · intro decrypted
      obtain ⟨key, padded, content', readable, conceals, frames⟩ | ⟨fault, refuses⟩ := framed_or_refused text ciphertext
      · rw [decrypt_of_frames readable conceals frames] at decrypted
        obtain rfl := Except.ok.inj decrypted
        exact ⟨key, padded, readable, conceals, frames⟩
      · rw [decrypt_of_refuses refuses] at decrypted
        cases decrypted
    · rintro ⟨key, padded, readable, conceals, frames⟩
      exact decrypt_of_frames readable conceals frames
  case unique =>
    intro key padded padded' content content' readable conceals frames conceals' frames'
    have first := decrypt_of_frames readable conceals frames
    have second := decrypt_of_frames readable conceals' frames'
    exact Except.ok.inj (first.symm.trans second)
  case paddings =>
    intro key size f fits readable small written
    exact decrypt_of_frames readable (conceals_padTo fits written) (frames_padTo fits small)
  case refuses =>
    intro fault
    constructor
    · intro refused
      obtain ⟨key, padded, content, readable, conceals, frames⟩ | ⟨fault', refuses⟩ := framed_or_refused text ciphertext
      · rw [decrypt_of_frames readable conceals frames] at refused
        cases refused
      · rw [decrypt_of_refuses refuses] at refused
        obtain rfl := Except.error.inj refused
        exact refuses
    · intro refuses
      exact decrypt_of_refuses refuses

/-- A frame of 32 bytes without content. -/
def Frame.empty : Frame := ⟨Key.ascending.first, [], Bytes.ofString "receiver-one"⟩

/-- The padding is two blocks of its own. -/
theorem decrypt_eq_ok_iff_framed_twoBlocks :
    Key.decode "AAECAwQFBgcICQoLDA0ODxAREhMUFRYXGBkaGxwdHh8" = .ok .ascending ∧
      padTo 32 Frame.empty.toBytes = Frame.empty.toBytes ++ List.replicate 32 32 ∧
      ∃ ciphertext, Key.ascending.Conceals ciphertext (padTo 32 Frame.empty.toBytes) ∧
        decrypt "AAECAwQFBgcICQoLDA0ODxAREhMUFRYXGBkaGxwdHh8" ciphertext = .ok [] := by
  have readable : Key.decode "AAECAwQFBgcICQoLDA0ODxAREhMUFRYXGBkaGxwdHh8" = .ok .ascending := by cbv
  have length : Frame.empty.toBytes.length = 32 := by cbv
  have padded : padTo 32 Frame.empty.toBytes = Frame.empty.toBytes ++ List.replicate 32 32 := by
    rw [padTo, length]
    rfl
  let sealed := Base64.encodeText
    (Aes.Block.join (Key.ascending.encryptBlocks (Aes.Block.split (padTo 32 Frame.empty.toBytes))))
  have written : trim sealed = sealed := Base64.trim_encodeText _
  obtain ⟨_, _, paddings, _⟩ := decrypt_eq_ok_iff_framed "AAECAwQFBgcICQoLDA0ODxAREhMUFRYXGBkaGxwdHh8" sealed
  exact ⟨readable, padded, sealed, conceals_padTo (.inr rfl) written,
    paddings .ascending 32 .empty (.inr rfl) readable (by decide) written⟩

end Acceptance

end ReplyGateway.Cipher
