import Mathlib
import ReplyGateway.Json.Quoted
import ReplyGateway.Proofs.Utf8

namespace ReplyGateway.Json.Quoted

/-- The bytes of a character as it is written between quotes. -/
def writtenChar (c : Char) : Bytes := (encodeChar c).flatMap String.utf8EncodeChar

def written (s : String) : Bytes := s.toList.flatMap writtenChar

theorem utf8EncodeChar_digitChar {d : Nat} (h : d < 16) :
    String.utf8EncodeChar (Nat.digitChar d) = [UInt8.ofNat (Nat.digitChar d).toNat] := by
  have ascii : ∀ d < 16, (Nat.digitChar d).toNat < 128 := by decide
  exact Bytes.utf8EncodeChar_of_lt (ascii d h)

theorem hexValue4?_digitChar {n : Nat} (h : n < 32) :
    hexValue4? 48 48 (.ofNat (Nat.digitChar (n / 16)).toNat) (.ofNat (Nat.digitChar (n % 16)).toNat) = some n := by
  have all : ∀ n < 32, hexValue4? 48 48 (.ofNat (Nat.digitChar (n / 16)).toNat)
      (.ofNat (Nat.digitChar (n % 16)).toNat) = some n := by decide
  exact all n h

/-- Whether a byte stands for itself between quotes. -/
def IsPlain (b : UInt8) : Prop := ¬ b < 32 ∧ b ≠ 34 ∧ b ≠ 92

/-- A character that need not be escaped stands for itself, byte by byte. -/
theorem isPlain_of_mem_utf8EncodeChar {c : Char} (low : ¬ c.toNat < 32) (quote : c ≠ '"') (backslash : c ≠ '\\')
    {b : UInt8} (mem : b ∈ String.utf8EncodeChar c) : IsPlain b := by
  have value : ¬ b.toNat < 32 ∧ b.toNat ≠ 34 ∧ b.toNat ≠ 92 := by
    by_cases ascii : c.toNat < 128
    · rw [Bytes.utf8EncodeChar_of_lt ascii, List.mem_singleton] at mem
      rw [mem, UInt8.toNat_ofNat_of_lt' (show c.toNat < 256 by omega)]
      refine ⟨low, fun same => quote ?_, fun same => backslash ?_⟩
      · exact Char.toNat_inj.1 same
      · exact Char.toNat_inj.1 same
    · have beyond := Bytes.le_toNat_of_mem_utf8EncodeChar (Nat.not_lt.1 ascii) mem
      omega
  refine ⟨value.1, fun same => value.2.1 ?_, fun same => value.2.2 ?_⟩
  · rw [same]; rfl
  · rw [same]; rfl

/-- The letters that stand for a character after a backslash. -/
def letters : List (UInt8 × Char) :=
  [(34, '"'), (92, '\\'), (47, '/'), (98, '\x08'), (102, '\x0c'), (110, '\n'), (114, '\r'), (116, '\t')]

theorem unescape?_of_mem_letters {letter : UInt8} {c : Char} (mem : (letter, c) ∈ letters) :
    ∃ b, unescape? letter = some b ∧ String.utf8EncodeChar c = [b] := by
  simp only [letters, List.mem_cons, List.not_mem_nil, or_false, Prod.mk.injEq] at mem
  rcases mem with ⟨rfl, rfl⟩ | ⟨rfl, rfl⟩ | ⟨rfl, rfl⟩ | ⟨rfl, rfl⟩ | ⟨rfl, rfl⟩ | ⟨rfl, rfl⟩ | ⟨rfl, rfl⟩ |
      ⟨rfl, rfl⟩ <;>
    exact ⟨_, rfl, rfl⟩

/-- What may stand between quotes. -/
inductive IsRaw : Bytes → Prop
  | nil : IsRaw []
  | plain {b : UInt8} {rest : Bytes} : IsPlain b → IsRaw rest → IsRaw (b :: rest)
  | letter {letter : UInt8} {c : Char} {rest : Bytes} : (letter, c) ∈ letters → IsRaw rest →
      IsRaw (92 :: letter :: rest)
  | code {a b c d : UInt8} {n : Nat} {rest : Bytes} : hexValue4? a b c d = some n → IsRaw rest →
      IsRaw (92 :: 117 :: a :: b :: c :: d :: rest)

/-- The ways to write a character between quotes. One beyond four digits takes two codes from the surrogates. -/
inductive SpellsChar : Bytes → Char → Prop
  | itself {c : Char} : ¬ c.toNat < 32 → c ≠ '"' → c ≠ '\\' → SpellsChar (String.utf8EncodeChar c) c
  | letter {letter : UInt8} {c : Char} : (letter, c) ∈ letters → SpellsChar [92, letter] c
  | code {a b d e : UInt8} {c : Char} : hexValue4? a b d e = some c.toNat → SpellsChar [92, 117, a, b, d, e] c
  | pair {a b d e a' b' d' e' : UInt8} {high low : Nat} {c : Char} : hexValue4? a b d e = some high →
      hexValue4? a' b' d' e' = some low → 0xD800 ≤ high ∧ high < 0xDC00 → 0xDC00 ≤ low ∧ low ≤ 0xDFFF →
      c.toNat = 0x10000 + (high - 0xD800) * 1024 + (low - 0xDC00) →
      SpellsChar [92, 117, a, b, d, e, 92, 117, a', b', d', e'] c

/-- Bytes between quotes spell a text, character by character. -/
inductive Spells : Bytes → List Char → Prop
  | nil : Spells [] []
  | cons {part rest : Bytes} {c : Char} {cs : List Char} : SpellsChar part c → Spells rest cs →
      Spells (part ++ rest) (c :: cs)

theorem scan_of_plain {b : UInt8} (plain : IsPlain b) (done rest : Bytes) :
    scan done (b :: rest) = scan (b :: done) rest := by
  obtain ⟨low, quote, backslash⟩ := plain
  rw [scan, if_neg (by simp [low, backslash])]
  · exact quote
  · intro _ _ _ _ _ same; exact (backslash same).elim
  · intro _ _ same; exact (backslash same).elim

theorem scan_of_letter {letter : UInt8} {c : Char} (mem : (letter, c) ∈ letters) (done rest : Bytes) :
    scan done (92 :: letter :: rest) = scan (letter :: 92 :: done) rest := by
  obtain ⟨b, means, _⟩ := unescape?_of_mem_letters mem
  rw [scan, if_pos (by rw [means]; rfl)]
  rintro a b d e more rfl
  cases means

/-- The quote that closes a text is the first one that is not escaped. -/
theorem IsRaw.scan_eq {raw : Bytes} (isRaw : IsRaw raw) (done rest : Bytes) :
    scan done (raw ++ 34 :: rest) = some (done.reverse ++ raw, rest) := by
  induction isRaw generalizing done with
  | nil => simp [scan]
  | plain plain _ ih => simp [scan_of_plain plain, ih]
  | letter mem _ ih => simp [scan_of_letter mem, ih]
  | code value _ ih => simp [scan, value, ih]

theorem unescapeOnto_of_plain {bytes : Bytes} (plain : ∀ b ∈ bytes, IsPlain b) (done rest : Bytes) :
    unescapeOnto done (bytes ++ rest) = unescapeOnto (bytes.reverse ++ done) rest := by
  induction bytes generalizing done with
  | nil => rfl
  | cons b more ih =>
    have backslash := (plain b (by simp)).2.2
    rw [List.cons_append, unescapeOnto, ih (fun b mem => plain b (by simp [mem]))]
    · simp
    · intro _ _ _ _ _ same; exact (backslash same).elim
    · intro _ _ same; exact (backslash same).elim

theorem IsRaw.append_of_plain {bytes rest : Bytes} (plain : ∀ b ∈ bytes, IsPlain b)
    (isRaw : IsRaw rest) : IsRaw (bytes ++ rest) := by
  induction bytes with
  | nil => exact isRaw
  | cons b more ih => exact .plain (plain b (by simp)) (ih fun b mem => plain b (by simp [mem]))

theorem SpellsChar.isRaw {part rest : Bytes} {c : Char} (spells : SpellsChar part c) (after : IsRaw rest) :
    IsRaw (part ++ rest) := by
  cases spells with
  | itself low quote backslash =>
    exact .append_of_plain (fun _ => isPlain_of_mem_utf8EncodeChar low quote backslash) after
  | letter mem => exact .letter mem after
  | code value => exact .code value after
  | pair high low => exact .code high (.code low after)

/-- However a character is written, its bytes are decoded. -/
theorem SpellsChar.unescapeOnto_eq {part : Bytes} {c : Char} (spells : SpellsChar part c) (done rest : Bytes) :
    unescapeOnto done (part ++ rest) = unescapeOnto ((String.utf8EncodeChar c).reverse ++ done) rest := by
  cases spells with
  | itself low quote backslash =>
    exact unescapeOnto_of_plain (fun _ => isPlain_of_mem_utf8EncodeChar low quote backslash) done rest
  | @letter letter _ mem =>
    obtain ⟨b, means, one⟩ := unescape?_of_mem_letters mem
    rw [one, List.cons_append, List.singleton_append, unescapeOnto, means]
    · simp
    · rintro a b d e more rfl
      cases means
  | code value =>
    have notSurrogate : c.toNat < 0xD800 ∨ 0xDFFF < c.toNat := by
      have valid := c.valid
      simp only [UInt32.isValidChar, Nat.isValidChar] at valid
      exact valid.imp id And.left
    simp [unescapeOnto, value, notSurrogate, codeBytesReversed]
  | @pair _ _ _ _ _ _ _ _ high low _ readHigh readLow isHigh isLow code =>
    have surrogate : ¬ (high < 0xD800 ∨ 0xDFFF < high) := by omega
    have first : ¬ 0xDC00 ≤ high := by omega
    simp only [List.cons_append, List.nil_append, unescapeOnto, readHigh, readLow, if_neg surrogate, if_neg first,
      if_pos isLow, ← code, codeBytesReversed, Char.ofNat_toNat]

theorem Spells.isRaw {raw : Bytes} {cs : List Char} (spells : Spells raw cs) : IsRaw raw := by
  induction spells with
  | nil => exact .nil
  | cons char _ ih => exact char.isRaw ih

theorem Spells.unescapeOnto_eq {raw : Bytes} {cs : List Char} (spells : Spells raw cs) (done : Bytes) :
    unescapeOnto done raw = some (done.reverse ++ cs.flatMap String.utf8EncodeChar) := by
  induction spells generalizing done with
  | nil => simp [unescapeOnto]
  | cons char _ ih => simp [char.unescapeOnto_eq, ih]

/-- What is between quotes is decoded to the text that it spells. -/
theorem Spells.decode_eq {raw : Bytes} {cs : List Char} (spells : Spells raw cs) :
    decode raw = some (String.ofList cs) := by
  simp [decode, spells.unescapeOnto_eq, ← Bytes.ofString_ofList, Bytes.text?_ofString]

/-- A character is written in one of the ways that are read. -/
theorem spellsChar_writtenChar (c : Char) : SpellsChar (writtenChar c) c := by
  unfold writtenChar
  fun_cases encodeChar c with
  | case1 => subst_vars; exact .letter (by decide)
  | case2 => subst_vars; exact .letter (by decide)
  | case3 => subst_vars; exact .letter (by decide)
  | case4 => subst_vars; exact .letter (by decide)
  | case5 => subst_vars; exact .letter (by decide)
  | case6 => subst_vars; exact .letter (by decide)
  | case7 => subst_vars; exact .letter (by decide)
  | case8 _ _ _ _ _ _ _ control =>
    simp only [List.flatMap_cons, List.flatMap_nil, utf8EncodeChar_digitChar (by omega : c.toNat / 16 < 16),
      utf8EncodeChar_digitChar (Nat.mod_lt c.toNat (by decide : 0 < 16))]
    exact .code (hexValue4?_digitChar control)
  | case9 quote backslash _ _ _ _ _ control =>
    rw [List.flatMap_singleton]
    exact .itself control quote backslash

theorem spells_written (s : String) : Spells (written s) s.toList := by
  have all (cs : List Char) : Spells (cs.flatMap writtenChar) cs := by
    induction cs with
    | nil => exact .nil
    | cons c cs ih => exact .cons (spellsChar_writtenChar c) ih
  exact all s.toList

/-- A text that is written reads back. -/
theorem decode_written (s : String) : decode (written s) = some s := by
  rw [(spells_written s).decode_eq, String.ofList_toList]

/-- The bytes of a written text, with its quotes. -/
theorem ofString_encode (s : String) : Bytes.ofString (String.ofList (encode s)) = 34 :: (written s ++ [34]) := by
  have quote : String.utf8EncodeChar '"' = [34] := rfl
  have chars : (fun c => (encodeChar c).flatMap String.utf8EncodeChar) = writtenChar := rfl
  rw [Bytes.ofString_ofList, encode, List.flatMap_cons, List.flatMap_append, List.flatMap_assoc, chars]
  simp [quote, written]

end ReplyGateway.Json.Quoted
