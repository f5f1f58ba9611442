import ReplyGateway.Aes.Byte
import ReplyGateway.Bytes

namespace ReplyGateway.Aes

/-- A column of a block, four bytes. It is also read as a polynomial with these coefficients. -/
@[ext]
structure Column where
  a : UInt8
  b : UInt8
  c : UInt8
  d : UInt8
  deriving DecidableEq, Repr

namespace Column

def xor (p q : Column) : Column := ⟨p.a ^^^ q.a, p.b ^^^ q.b, p.c ^^^ q.c, p.d ^^^ q.d⟩

instance : XorOp Column := ⟨xor⟩

def map (f : UInt8 → UInt8) (p : Column) : Column := ⟨f p.a, f p.b, f p.c, f p.d⟩

def toBytes (p : Column) : Bytes := [p.a, p.b, p.c, p.d]

/-- The product with the matrix whose rows are the rotations of 2 3 1 1. -/
def mix (p : Column) : Column where
  a := double p.a ^^^ (double p.b ^^^ p.b) ^^^ p.c ^^^ p.d
  b := p.a ^^^ double p.b ^^^ (double p.c ^^^ p.c) ^^^ p.d
  c := p.a ^^^ p.b ^^^ double p.c ^^^ (double p.d ^^^ p.d)
  d := (double p.a ^^^ p.a) ^^^ p.b ^^^ p.c ^^^ double p.d

/-- The product with the matrix whose rows are the rotations of 5 0 4 0. -/
def mixTwice (p : Column) : Column :=
  let even := double (double (p.a ^^^ p.c))
  let odd := double (double (p.b ^^^ p.d))
  ⟨p.a ^^^ even, p.b ^^^ odd, p.c ^^^ even, p.d ^^^ odd⟩

/-- The inverse of `mix`: four mixings in a row change nothing. -/
def unmix (p : Column) : Column := p.mixTwice.mix

theorem xor_left_comm (p q r : UInt8) : p ^^^ (q ^^^ r) = q ^^^ (p ^^^ r) := by ac_rfl

theorem xor_cancel (p q : UInt8) : p ^^^ (p ^^^ q) = q := by
  rw [← UInt8.xor_assoc, UInt8.xor_self, UInt8.zero_xor]

theorem mix_mix (p : Column) : p.mix.mix = p.mixTwice := by
  ext <;> simp only [mix, mixTwice, double_xor, UInt8.xor_assoc] <;>
    simp only [UInt8.xor_assoc, UInt8.xor_comm, xor_left_comm, xor_cancel, UInt8.xor_self, UInt8.zero_xor]

theorem mixTwice_mixTwice (p : Column) : p.mixTwice.mixTwice = p := by
  ext <;> simp only [mixTwice, double_xor, UInt8.xor_assoc] <;>
    simp only [UInt8.xor_comm, xor_left_comm, xor_cancel, UInt8.xor_self, UInt8.xor_zero]

/-- Mixing is undone by its inverse, and the other way round. -/
theorem mix_unmix (p : Column) : p.unmix.mix = p := by rw [unmix, mix_mix, mixTwice_mixTwice]

theorem unmix_mix (p : Column) : p.mix.unmix = p := by
  have : p.mix.mixTwice = p.mixTwice.mix := by rw [← mix_mix, ← mix_mix]
  rw [unmix, this, mix_mix, mixTwice_mixTwice]

@[simp] theorem length_toBytes (p : Column) : p.toBytes.length = 4 := rfl

theorem xor_xor_self (p q : Column) : (p ^^^ q) ^^^ q = p := by
  show Column.xor (Column.xor p q) q = p
  ext <;> simp only [xor, UInt8.xor_assoc, UInt8.xor_self, UInt8.xor_zero]

theorem map_map_of_leftInverse {f g : UInt8 → UInt8} (h : ∀ x, g (f x) = x) (p : Column) : (p.map f).map g = p := by
  ext <;> simp [map, h]

end Column

/-- A block of AES: four columns; in the order of bytes a column comes after the other. -/
@[ext]
structure Block where
  c0 : Column
  c1 : Column
  c2 : Column
  c3 : Column
  deriving DecidableEq, Repr

namespace Block

def xor (p q : Block) : Block := ⟨p.c0 ^^^ q.c0, p.c1 ^^^ q.c1, p.c2 ^^^ q.c2, p.c3 ^^^ q.c3⟩

instance : XorOp Block := ⟨xor⟩

theorem xor_xor_self (p q : Block) : (p ^^^ q) ^^^ q = p := by
  show Block.xor (Block.xor p q) q = p
  simp [xor, Column.xor_xor_self]

def map (f : Column → Column) (p : Block) : Block := ⟨f p.c0, f p.c1, f p.c2, f p.c3⟩

theorem map_map_of_leftInverse {f g : Column → Column} (h : ∀ x, g (f x) = x) (p : Block) : (p.map f).map g = p := by
  simp [map, h]

/-- Rotates row n, counted from zero, to the left by n columns. -/
def shiftRows (p : Block) : Block where
  c0 := ⟨p.c0.a, p.c1.b, p.c2.c, p.c3.d⟩
  c1 := ⟨p.c1.a, p.c2.b, p.c3.c, p.c0.d⟩
  c2 := ⟨p.c2.a, p.c3.b, p.c0.c, p.c1.d⟩
  c3 := ⟨p.c3.a, p.c0.b, p.c1.c, p.c2.d⟩

def unshiftRows (p : Block) : Block where
  c0 := ⟨p.c0.a, p.c3.b, p.c2.c, p.c1.d⟩
  c1 := ⟨p.c1.a, p.c0.b, p.c3.c, p.c2.d⟩
  c2 := ⟨p.c2.a, p.c1.b, p.c0.c, p.c3.d⟩
  c3 := ⟨p.c3.a, p.c2.b, p.c1.c, p.c0.d⟩

theorem unshiftRows_shiftRows (p : Block) : p.shiftRows.unshiftRows = p := rfl

theorem shiftRows_unshiftRows (p : Block) : p.unshiftRows.shiftRows = p := rfl

/-- The part of a round that takes no key and mixes no columns: every byte is substituted, and the rows are rotated. -/
def scramble (p : Block) : Block := (p.map (.map substitute)).shiftRows

def unscramble (p : Block) : Block := p.unshiftRows.map (.map unsubstitute)

/-- What a round does without a key can be undone, on either side. -/
theorem unscramble_scramble (p : Block) : p.scramble.unscramble = p := by
  rw [scramble, unscramble, unshiftRows_shiftRows]
  exact map_map_of_leftInverse (Column.map_map_of_leftInverse unsubstitute_substitute) p

theorem scramble_unscramble (p : Block) : p.unscramble.scramble = p := by
  rw [scramble, unscramble, map_map_of_leftInverse (Column.map_map_of_leftInverse substitute_unsubstitute)]
  exact shiftRows_unshiftRows p

def toBytes (p : Block) : Bytes := p.c0.toBytes ++ p.c1.toBytes ++ p.c2.toBytes ++ p.c3.toBytes

@[simp] theorem length_toBytes (p : Block) : p.toBytes.length = 16 := rfl

/-- Puts the whole blocks in front of the bytes on top of `done`, last on top, and turns all over; bytes
beyond the last whole block are left out. -/
def splitOnto (done : List Block) : Bytes → List Block
  | a :: b :: c :: d :: e :: f :: g :: h :: i :: j :: k :: l :: m :: n :: o :: p :: rest =>
    splitOnto (⟨⟨a, b, c, d⟩, ⟨e, f, g, h⟩, ⟨i, j, k, l⟩, ⟨m, n, o, p⟩⟩ :: done) rest
  | _ => done.reverse

/-- The whole blocks of bytes. -/
def split (b : Bytes) : List Block := splitOnto [] b

def join (blocks : List Block) : Bytes := blocks.flatMap toBytes

@[simp] theorem split_nil : split [] = [] := rfl

@[simp] theorem join_nil : join [] = [] := rfl

@[simp] theorem join_cons (p : Block) (rest : List Block) : join (p :: rest) = p.toBytes ++ join rest := rfl

theorem length_join (blocks : List Block) : (join blocks).length = 16 * blocks.length := by
  induction blocks with
  | nil => rfl
  | cons p rest ih => simp [ih]; omega

theorem splitOnto_join (done blocks : List Block) : splitOnto done (join blocks) = done.reverse ++ blocks := by
  induction blocks generalizing done with
  | nil => simp [splitOnto]
  | cons p rest ih =>
    have : splitOnto done (join (p :: rest)) = splitOnto (p :: done) (join rest) := rfl
    rw [this, ih]
    simp

/-- Blocks can be told apart in their bytes. -/
theorem split_join (blocks : List Block) : split (join blocks) = blocks := by simp [split, splitOnto_join]

theorem exists_eq_toBytes {b : Bytes} (h : b.length = 16) : ∃ p : Block, b = p.toBytes := by
  match b, h with
  | [a, b, c, d, e, f, g, h, i, j, k, l, m, n, o, p], _ =>
    exact ⟨⟨⟨a, b, c, d⟩, ⟨e, f, g, h⟩, ⟨i, j, k, l⟩, ⟨m, n, o, p⟩⟩, rfl⟩

/-- Bytes of a whole number of blocks are the bytes of some blocks. -/
theorem exists_eq_join {b : Bytes} {n : Nat} (h : b.length = 16 * n) : ∃ blocks, b = join blocks := by
  induction n generalizing b with
  | zero => exact ⟨[], List.length_eq_zero_iff.1 h⟩
  | succ n ih =>
    obtain ⟨p, front⟩ := exists_eq_toBytes (b := b.take 16) (by simp; omega)
    obtain ⟨rest, back⟩ := ih (b := b.drop 16) (by simp; omega)
    exact ⟨p :: rest, by rw [join_cons, ← front, ← back, List.take_append_drop]⟩

/-- Bytes of a whole number of blocks are not changed by splitting them. -/
theorem join_split {b : Bytes} (h : b.length % 16 = 0) : join (split b) = b := by
  obtain ⟨blocks, rfl⟩ := exists_eq_join (b := b) (n := b.length / 16) (by omega)
  rw [split_join]

end Block
end ReplyGateway.Aes
