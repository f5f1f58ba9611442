import Mathlib
import ReplyGateway.Sha1.Hasher

namespace ReplyGateway.Sha1.Hasher

theorem size_update (s : Hasher) (piece : Bytes) : (s.update piece).size = s.size + piece.length := by
  induction piece generalizing s with
  | nil => rfl
  | cons x rest ih =>
    have one : (s.feed x).size = s.size + 1 := by unfold feed; split <;> rfl
    change ((s.feed x).update rest).size = _
    rw [ih, one, List.length_cons]
    omega

/-- Bytes that do not fill a block wait. -/
theorem update_of_lt {s : Hasher} {piece : Bytes} (room : s.size % 64 + piece.length < 64) :
    s.update piece = ⟨s.chain, piece.reverse ++ s.pending, s.size + piece.length⟩ := by
  induction piece generalizing s with
  | nil => rfl
  | cons x rest ih =>
    rw [List.length_cons] at room
    have waits : s.feed x = ⟨s.chain, x :: s.pending, s.size + 1⟩ := if_neg (by omega)
    change (s.feed x).update rest = _
    rw [waits, ih (by simp only; omega), List.reverse_cons, List.append_assoc, List.length_cons]
    simp only [List.singleton_append, Hasher.mk.injEq, true_and]
    omega

/-- A block that begins where none is pending is mixed in as a whole. -/
theorem update_block {s : Hasher} {block : Bytes} (none : s.pending = []) (aligned : s.size % 64 = 0)
    (full : block.length = 64) : s.update block = ⟨s.chain.compress block, [], s.size + 64⟩ := by
  obtain ⟨front, x, rfl⟩ := List.eq_nil_or_concat' block |>.resolve_left (by rintro rfl; cases full)
  have length : front.length = 63 := by simpa using full
  have last : (s.size + 63) % 64 = 63 := by omega
  rw [update_append, update_of_lt (s := s) (by omega), none, List.append_nil, length]
  change feed _ x = _
  rw [feed, if_pos last, List.reverse_cons, List.reverse_reverse]

/-- A message that ends with a block is mixed in block by block. -/
theorem chain_update {s : Hasher} {message : Bytes} (none : s.pending = []) (aligned : s.size % 64 = 0)
    (whole : message.length % 64 = 0) :
    (s.update message).chain = (message.blocks 64).foldl Chain.compress s.chain := by
  obtain ⟨count, length⟩ : ∃ count, message.length = 64 * count := ⟨message.length / 64, by omega⟩
  induction count generalizing s message with
  | zero =>
    obtain rfl := List.length_eq_zero_iff.1 length
    rw [Bytes.blocks_nil]
    rfl
  | succ count ih =>
    have full : (message.take 64).length = 64 := by rw [List.length_take]; omega
    have others : (message.drop 64).length = 64 * count := by rw [List.length_drop]; omega
    rw [← List.take_append_drop 64 message, update_append, update_block none aligned full,
      Bytes.blocks_append (by decide) full, List.foldl_cons]
    exact ih rfl (by simp only; omega) (by omega) others

theorem finish_update_start (message : Bytes) : (start.update message).finish = digest message := by
  have size : (start.update message).size = message.length := by rw [size_update]; exact Nat.zero_add _
  have whole : (message ++ padding message.length).length % 64 = 0 := by
    rw [List.length_append, size_add_length_padding]
  rw [finish, size, ← update_append, chain_update rfl rfl whole]
  rfl

theorem foldl_update (s : Hasher) (pieces : List Bytes) : pieces.foldl update s = s.update pieces.flatten := by
  simp only [update, List.foldl_flatten]
  rfl

/-- However a message is cut into pieces, what is left in the end is the digest of the whole message. -/
theorem finish_foldl_update (pieces : List Bytes) : (pieces.foldl update start).finish = digest pieces.flatten := by
  rw [foldl_update, finish_update_start]

end ReplyGateway.Sha1.Hasher
