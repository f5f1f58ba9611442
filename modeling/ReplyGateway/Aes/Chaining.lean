import ReplyGateway.Aes.Block

namespace ReplyGateway.Aes.Chaining

/-- Encrypts one more block on top of those encrypted so far, last first. -/
def step (f : Block → Block) (start : Block) (done : List Block) (p : Block) : List Block :=
  f (p ^^^ done.headD start) :: done

/-- Cipher block chaining over any map of blocks: every block is added to the one encrypted before it. -/
def encrypt (f : Block → Block) (start : Block) (blocks : List Block) : List Block :=
  (blocks.foldl (step f start) []).reverse

def decrypt (g : Block → Block) (start : Block) (blocks : List Block) : List Block :=
  List.zipWith (fun c previous => g c ^^^ previous) blocks (start :: blocks)

theorem foldl_step (f : Block → Block) (start : Block) (done blocks : List Block) :
    blocks.foldl (step f start) done = blocks.foldl (step f (done.headD start)) [] ++ done := by
  induction blocks generalizing done start with
  | nil => rfl
  | cons p rest ih =>
    rw [List.foldl_cons, List.foldl_cons, ih, ih (done.headD start)]
    simp [step]

@[simp] theorem encrypt_nil (f : Block → Block) (start : Block) : encrypt f start [] = [] := rfl

theorem encrypt_cons (f : Block → Block) (start p : Block) (rest : List Block) :
    encrypt f start (p :: rest) = f (p ^^^ start) :: encrypt f (f (p ^^^ start)) rest := by
  rw [encrypt, List.foldl_cons, foldl_step]
  simp [step, encrypt]

@[simp] theorem length_encrypt (f : Block → Block) (start : Block) (blocks : List Block) :
    (encrypt f start blocks).length = blocks.length := by
  induction blocks generalizing start with
  | nil => rfl
  | cons p rest ih => simp [encrypt_cons, ih]

@[simp] theorem length_decrypt (g : Block → Block) (start : Block) (blocks : List Block) :
    (decrypt g start blocks).length = blocks.length := by simp [decrypt]

/-- If a map of blocks has an inverse, so has its chaining. -/
theorem decrypt_encrypt {f g : Block → Block} (h : ∀ p, g (f p) = p) (start : Block) (blocks : List Block) :
    decrypt g start (encrypt f start blocks) = blocks := by
  induction blocks generalizing start with
  | nil => rfl
  | cons p rest ih =>
    have := ih (f (p ^^^ start))
    rw [decrypt] at this
    rw [encrypt_cons, decrypt, List.zipWith_cons_cons, h, Block.xor_xor_self, this]

theorem encrypt_decrypt {f g : Block → Block} (h : ∀ p, f (g p) = p) (start : Block) (blocks : List Block) :
    encrypt f start (decrypt g start blocks) = blocks := by
  induction blocks generalizing start with
  | nil => rfl
  | cons c rest ih =>
    have := ih c
    rw [decrypt] at this
    rw [decrypt, List.zipWith_cons_cons, encrypt_cons, Block.xor_xor_self, h, this]

end ReplyGateway.Aes.Chaining
