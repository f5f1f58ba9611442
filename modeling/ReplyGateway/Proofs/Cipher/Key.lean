import Mathlib
import ReplyGateway.Proofs.Base64.Bits
import ReplyGateway.Proofs.Cipher.RoundTrip

namespace ReplyGateway.Cipher

/-- 43 letters of the alphabet, as 32 bytes have them before the padding. -/
structure IsKeyText (text : String) : Prop where
  length : text.length = 43
  letters : ∀ c ∈ text.toList, c ∈ Base64.alphabet

/-- The letters are the same but for spare bits: the last one stands for four bits of the last byte. -/
structure AgreeUpToSpareBits (text other : String) : Prop where
  front : text.toList.take 42 = other.toList.take 42
  last : ∀ c ∈ text.toList.getLast?, ∀ d ∈ other.toList.getLast?,
    (Base64.letterBits c).take 4 = (Base64.letterBits d).take 4

section

variable {text other : String}

theorem IsKeyText.ofString_eq (isKey : IsKeyText text) :
    Bytes.ofString text = text.toList.map fun c => UInt8.ofNat c.toNat :=
  Bytes.ofString_of_ascii fun c mem => Base64.toNat_lt_of_mem_alphabet (isKey.letters c mem)

theorem isKeyText_iff :
    IsKeyText text ↔
      (Bytes.ofString text).length = 43 ∧ ∀ x ∈ Bytes.ofString text, (Base64.sextet? x).isSome = true := by
  constructor
  · intro isKey
    rw [isKey.ofString_eq, List.length_map, String.length_toList]
    refine ⟨isKey.length, fun x mem => ?_⟩
    obtain ⟨c, member, rfl⟩ := List.mem_map.1 mem
    have letter := isKey.letters c member
    exact (Base64.mem_alphabet_iff (Base64.toNat_lt_of_mem_alphabet letter)).1 letter
  · rintro ⟨length, letters⟩
    have ascii : ∀ c ∈ text.toList, c.toNat < 128 := Bytes.ascii_of_ofString fun x mem =>
      Base64.toNat_lt_of_isLetter (by rw [Base64.isLetter, letters x mem, Bool.true_or])
    rw [Bytes.ofString_of_ascii ascii] at length letters
    refine ⟨by rwa [List.length_map, String.length_toList] at length, fun c mem => ?_⟩
    exact (Base64.mem_alphabet_iff (ascii c mem)).2 (letters _ (List.mem_map.2 ⟨c, mem, rfl⟩))

end

namespace Key

variable {text other : String} {key : Key}

/-- A text is read without the blanks around it, and with the padding byte that its end lacks. -/
theorem decode_eq_ok_iff :
    decode text = .ok key ↔ Base64.Spells .ignored (Bytes.ofString (trim text) ++ [Base64.pad]) key.toBytes := by
  rw [← Base64.decode_eq_ok_iff_spells, decode]
  constructor
  · intro read
    split at read
    · cases read
    · rename_i b decoded
      split at read
      · rename_i found fits
        obtain rfl := Except.ok.inj read
        rw [decoded, ofBytes?_eq_some_iff.1 fits]
      · cases read
  · intro decoded
    rw [decoded]
    simp only [ofBytes?_toBytes]

/-- A key is read from 43 letters of the alphabet and from nothing else. -/
theorem exists_decode_iff : (∃ key, decode text = .ok key) ↔ IsKeyText (trim text) := by
  rw [isKeyText_iff]
  constructor
  · rintro ⟨key, read⟩
    have size : key.toBytes.length = 3 * 10 + 2 := key.length_toBytes
    obtain ⟨front, same, length, letters⟩ := (decode_eq_ok_iff.1 read).exists_append_pad size
    rw [List.append_cancel_right same]
    exact ⟨length, letters⟩
  · rintro ⟨length, letters⟩
    obtain ⟨b, spells, size⟩ := Base64.exists_spells (show _ = 4 * 10 + 3 from length) letters
    obtain ⟨key, fits⟩ := Option.ne_none_iff_exists'.1 fun none => ofBytes?_eq_none_iff.1 none size
    exact ⟨key, decode_eq_ok_iff.2 (ofBytes?_eq_some_iff.1 fits ▸ spells)⟩

/-- The key that is read is the first 256 bits of the letters. -/
theorem bits_of_decode (read : decode text = .ok key) :
    key.toBytes.bits = ((trim text).toList.flatMap Base64.letterBits).take 256 := by
  have isKey := exists_decode_iff.1 ⟨key, read⟩
  have letters : (Bytes.ofString (trim text) ++ [Base64.pad]).flatMap Base64.symbolBits =
      (trim text).toList.flatMap Base64.letterBits := by
    rw [List.flatMap_append, isKey.ofString_eq, List.flatMap_map]
    refine (List.append_nil _).trans (List.flatMap_congr fun c mem => ?_)
    exact Base64.symbolBits_ofNat (isKey.letters c mem)
  rw [(decode_eq_ok_iff.1 read).bits_eq, key.length_toBytes, letters]

/-- Every key has a text: what its bytes are written as, without the padding. -/
theorem exists_decode (key : Key) : ∃ text, decode text = .ok key := by
  have size : key.toBytes.length = 3 * 10 + 2 := key.length_toBytes
  have spells := Base64.spells_encode .ignored key.toBytes
  obtain ⟨front, written, _, letters⟩ := spells.exists_append_pad size
  have isLetter (x : UInt8) (mem : x ∈ front) : Base64.isLetter x = true := by
    rw [Base64.isLetter, letters x mem, Bool.true_or]
  have bytes : Bytes.ofString (String.ofList (front.map Bytes.toChar)) = front :=
    Bytes.ofString_ofAscii fun x mem => Base64.toNat_lt_of_isLetter (isLetter x mem)
  have untrimmed : trim (String.ofList (front.map Bytes.toChar)) = String.ofList (front.map Bytes.toChar) := by
    rw [trim, String.toList_ofList, trimBoth_of_forall]
    intro c mem
    obtain ⟨x, member, rfl⟩ := List.mem_map.1 mem
    exact Base64.not_isBlank_of_isLetter (isLetter x member)
  refine ⟨String.ofList (front.map Bytes.toChar), decode_eq_ok_iff.2 ?_⟩
  rwa [untrimmed, bytes, ← written]

end Key

section

variable {text other : String}

theorem IsKeyText.exists_concat (isKey : IsKeyText text) : ∃ front last, text.toList = front ++ [last] ∧
    front.length = 42 ∧ (∀ c ∈ front, c ∈ Base64.alphabet) ∧ last ∈ Base64.alphabet := by
  have length := isKey.length
  have letters := isKey.letters
  rw [← String.length_toList] at length
  have some' : text.toList ≠ [] := List.ne_nil_of_length_pos (by omega)
  obtain ⟨front, last, split⟩ := (List.eq_nil_or_concat' text.toList).resolve_left some'
  rw [split] at length letters
  exact ⟨front, last, split, by simpa using length, fun c mem => letters c (by simp [mem]), letters last (by simp)⟩

/-- Of the last letter four bits count. -/
theorem take_flatMap_letterBits {front : List Char} (length : front.length = 42) (last : Char) :
    ((front ++ [last]).flatMap Base64.letterBits).take 256 =
      front.flatMap Base64.letterBits ++ (Base64.letterBits last).take 4 := by
  have size : (front.flatMap Base64.letterBits).length = 252 := by
    simp [Base64.letterBits, length]
  rw [List.flatMap_append, List.take_append, size, List.take_of_length_le (by omega), List.flatMap_singleton]

/-- The first 256 bits are all bits but the spare ones. -/
theorem IsKeyText.take_eq_iff (first : IsKeyText text) (second : IsKeyText other) :
    (text.toList.flatMap Base64.letterBits).take 256 = (other.toList.flatMap Base64.letterBits).take 256 ↔
      AgreeUpToSpareBits text other := by
  obtain ⟨front, last, split, length, letters, letter⟩ := first.exists_concat
  obtain ⟨front', last', split', length', letters', letter'⟩ := second.exists_concat
  have agree : AgreeUpToSpareBits text other ↔
      front = front' ∧ (Base64.letterBits last).take 4 = (Base64.letterBits last').take 4 := by
    have fronts : text.toList.take 42 = front := by rw [split, List.take_left' length]
    have fronts' : other.toList.take 42 = front' := by rw [split', List.take_left' length']
    have lasts : text.toList.getLast? = some last := by rw [split, List.getLast?_concat]
    have lasts' : other.toList.getLast? = some last' := by rw [split', List.getLast?_concat]
    constructor
    · rintro ⟨same, bits⟩
      rw [fronts, fronts'] at same
      exact ⟨same, bits last lasts last' lasts'⟩
    · rintro ⟨same, bits⟩
      refine ⟨by rw [fronts, fronts', same], fun c mem d mem' => ?_⟩
      obtain rfl := Option.some.inj (lasts.symm.trans mem)
      obtain rfl := Option.some.inj (lasts'.symm.trans mem')
      exact bits
  rw [split, split', take_flatMap_letterBits length, take_flatMap_letterBits length', agree]
  constructor
  · intro same
    obtain ⟨fronts, lasts⟩ := List.append_inj same (by simp [Base64.letterBits, length, length'])
    have inj (c : Char) (mem : c ∈ front) (d : Char) (mem' : d ∈ front') :
        Base64.letterBits c = Base64.letterBits d → c = d := Base64.letterBits_inj (letters c mem) (letters' d mem')
    have size : front.length = front'.length := by rw [length, length']
    exact ⟨eq_of_flatMap_eq Base64.letterBits (fun c => length_bitsOf ..) inj size fronts, lasts⟩
  · rintro ⟨rfl, lasts⟩
    rw [lasts]

end

/-- A text is read as a key if and only if it has 43 letters of the alphabet and nothing else, blanks around them apart;
any other text is refused, and with it what it should decrypt. The key is the first 256 bits of the letters, so that two
texts give the same bytes if and only if they agree up to spare bits. Every key has a text. -/
theorem Key.decode_keyText (text : String) :
    ((∃ key, decode text = .ok key) ↔ IsKeyText (trim text)) ∧
      (¬IsKeyText (trim text) →
        ∃ fault, decode text = .error fault ∧ ∀ ciphertext, decrypt text ciphertext = .error (.key fault)) ∧
      (∀ key, decode text = .ok key →
        key.toBytes.length = 32 ∧
        key.toBytes.bits = ((trim text).toList.flatMap Base64.letterBits).take 256 ∧
        ∀ other key', decode other = .ok key' →
          (key.toBytes = key'.toBytes ↔ AgreeUpToSpareBits (trim text) (trim other))) ∧
      ∀ key, ∃ spelling, decode spelling = .ok key := by
  refine ⟨exists_decode_iff, fun none => ?_, fun key read => ⟨key.length_toBytes, bits_of_decode read, ?_⟩,
    exists_decode⟩
  · cases read : decode text with
    | ok key => exact absurd (exists_decode_iff.1 ⟨key, read⟩) none
    | error fault => exact ⟨fault, rfl, fun ciphertext => by rw [decrypt, read]⟩
  · intro other key' read'
    have first := exists_decode_iff.1 ⟨key, read⟩
    have second := exists_decode_iff.1 ⟨key', read'⟩
    rw [← first.take_eq_iff second, ← bits_of_decode read, ← bits_of_decode read']
    exact ⟨fun same => by rw [same], Bytes.bits_inj⟩

/-- The texts differ in a spare bit and in blanks; the padding belongs to no key. -/
theorem Key.decode_keyText_of_spareBit :
    decode "AAECAwQFBgcICQoLDA0ODxAREhMUFRYXGBkaGxwdHh8" = .ok .ascending ∧
      decode " AAECAwQFBgcICQoLDA0ODxAREhMUFRYXGBkaGxwdHh9\n" = .ok .ascending ∧
      AgreeUpToSpareBits (trim "AAECAwQFBgcICQoLDA0ODxAREhMUFRYXGBkaGxwdHh8")
        (trim " AAECAwQFBgcICQoLDA0ODxAREhMUFRYXGBkaGxwdHh9\n") ∧
      ¬IsKeyText (trim "AAECAwQFBgcICQoLDA0ODxAREhMUFRYXGBkaGxwdHh8=") ∧
      ∃ fault, decode "AAECAwQFBgcICQoLDA0ODxAREhMUFRYXGBkaGxwdHh8=" = .error fault := by
  have first : decode "AAECAwQFBgcICQoLDA0ODxAREhMUFRYXGBkaGxwdHh8" = .ok .ascending := by cbv
  have second : decode " AAECAwQFBgcICQoLDA0ODxAREhMUFRYXGBkaGxwdHh9\n" = .ok .ascending := by cbv
  have padded : ¬IsKeyText (trim "AAECAwQFBgcICQoLDA0ODxAREhMUFRYXGBkaGxwdHh8=") := by
    intro isKey
    have length := isKey.length
    revert length
    decide +kernel
  obtain ⟨_, _, bytes, _⟩ := decode_keyText "AAECAwQFBgcICQoLDA0ODxAREhMUFRYXGBkaGxwdHh8"
  obtain ⟨_, _, agree⟩ := bytes _ first
  obtain ⟨_, refused, _⟩ := decode_keyText "AAECAwQFBgcICQoLDA0ODxAREhMUFRYXGBkaGxwdHh8="
  exact ⟨first, second, (agree _ _ second).1 rfl, padded, (refused padded).imp fun _ => And.left⟩

end ReplyGateway.Cipher
