import Mathlib
import ReplyGateway.Proofs.Json.Numeral
import ReplyGateway.Proofs.Json.Quoted

namespace ReplyGateway.Json.Token

/-- The tokens that are written in one way only. -/
def marks : List (Token × Bytes) :=
  [(openArray, [91]), (closeArray, [93]), (openObject, [123]), (closeObject, [125]), (comma, [44]), (colon, [58]),
    (null, [110, 117, 108, 108]), (bool true, [116, 114, 117, 101]), (bool false, [102, 97, 108, 115, 101])]

/-- Bytes spell tokens, one after another, with spaces anywhere between them. What follows a number does not go on
with it. -/
inductive Spells : Bytes → List Token → Prop
  | done : Spells [] []
  | space {b : UInt8} {rest : Bytes} {tokens : List Token} : isSpace b = true → Spells rest tokens →
      Spells (b :: rest) tokens
  | mark {token : Token} {text rest : Bytes} {tokens : List Token} : (token, text) ∈ marks → Spells rest tokens →
      Spells (text ++ rest) (token :: tokens)
  | string {raw rest : Bytes} {tokens : List Token} : Quoted.IsRaw raw → Spells rest tokens →
      Spells (34 :: (raw ++ 34 :: rest)) (string raw :: tokens)
  | number {n : Numeral} {text rest : Bytes} {tokens : List Token} : n.Spells text → Numeral.Ends rest →
      Spells rest tokens → Spells (text ++ rest) (number n :: tokens)

theorem Spells.byte {token : Token} {b : UInt8} {rest : Bytes} {tokens : List Token} (mem : (token, [b]) ∈ marks)
    (after : Spells rest tokens) : Spells (b :: rest) (token :: tokens) := .mark mem after

/-- A token that is written in one way only is known by its first byte. -/
theorem scan_mark {token : Token} {text : Bytes} (mem : (token, text) ∈ marks) :
    ∃ b more, text = b :: more ∧ isSpace b = false ∧ ∀ rest, scan (b :: (more ++ rest)) = some (token, rest) := by
  simp only [marks, List.mem_cons, List.not_mem_nil, or_false, Prod.mk.injEq] at mem
  rcases mem with ⟨rfl, rfl⟩ | ⟨rfl, rfl⟩ | ⟨rfl, rfl⟩ | ⟨rfl, rfl⟩ | ⟨rfl, rfl⟩ | ⟨rfl, rfl⟩ | ⟨rfl, rfl⟩ |
      ⟨rfl, rfl⟩ | ⟨rfl, rfl⟩ <;>
    exact ⟨_, _, rfl, rfl, fun _ => rfl⟩

/-- A number is cut off at the first byte that does not go on with it. -/
theorem scan_number {n : Numeral} {text rest : Bytes} (spells : n.Spells text) (ends : Numeral.Ends rest) :
    ∃ b more, text = b :: more ∧ isSpace b = false ∧ scan (b :: (more ++ rest)) = some (number n, rest) := by
  obtain ⟨b, more, rfl, first⟩ := spells.eq_cons
  have found := spells.scan_eq ends
  rw [List.cons_append] at found
  have other : b ∉ ([32, 9, 10, 13, 91, 93, 123, 125, 44, 58, 110, 116, 102, 34] : Bytes) := by
    intro mem
    simp only [List.mem_cons, List.not_mem_nil, or_false] at mem
    rcases mem with rfl | rfl | rfl | rfl | rfl | rfl | rfl | rfl | rfl | rfl | rfl | rfl | rfl | rfl <;>
      exact absurd first (by decide)
  simp only [List.mem_cons, List.not_mem_nil, or_false, not_or] at other
  exact ⟨b, more, rfl, by simp [isSpace, other], by simp [scan, found, other]⟩

/-- A token in front is taken, and there is enough fuel left for what follows it. -/
theorem scanAll_of_scan {b : UInt8} {more rest : Bytes} {token : Token} (solid : isSpace b = false)
    (found : scan (b :: more) = some (token, rest)) (shorter : rest.length ≤ more.length) {fuel : Nat}
    (enough : (b :: more).length ≤ fuel) (done : List Token) :
    ∃ left, rest.length ≤ left ∧ scanAll fuel done (b :: more) = scanAll left (token :: done) rest := by
  obtain ⟨left, rfl⟩ := Nat.exists_eq_succ_of_ne_zero (Nat.ne_of_gt (Nat.zero_lt_of_lt enough))
  refine ⟨left, Nat.le_trans shorter (Nat.le_of_succ_le_succ enough), ?_⟩
  rw [scanAll, if_neg (by simp [solid]), found]

theorem Spells.scanAll_eq {b : Bytes} {tokens : List Token} (spells : Spells b tokens) {fuel : Nat}
    (enough : b.length ≤ fuel) (done : List Token) : scanAll fuel done b = some (done.reverse ++ tokens) := by
  induction spells generalizing fuel done with
  | done => cases fuel <;> simp [scanAll]
  | space blank _ ih =>
    obtain ⟨fuel, rfl⟩ := Nat.exists_eq_succ_of_ne_zero (Nat.ne_of_gt (Nat.zero_lt_of_lt enough))
    rw [scanAll, if_pos blank, ih (Nat.le_of_succ_le_succ enough)]
  | mark mem _ ih =>
    obtain ⟨b, more, rfl, solid, found⟩ := scan_mark mem
    obtain ⟨left, enough, same⟩ := scanAll_of_scan solid (found _) (by simp) enough done
    simp [same, ih enough]
  | @string raw rest _ isRaw _ ih =>
    have found := isRaw.scan_eq [] rest
    obtain ⟨left, enough, same⟩ := scanAll_of_scan rfl (by rw [scan, found]; rfl) (by simp; omega) enough done
    simp [same, ih enough]
  | number spells ends _ ih =>
    obtain ⟨b, more, rfl, solid, found⟩ := scan_number spells ends
    obtain ⟨left, enough, same⟩ := scanAll_of_scan solid found (by simp) enough done
    simp [same, ih enough]

/-- Bytes that spell tokens are cut into these tokens. -/
theorem Spells.ofBytes?_eq {b : Bytes} {tokens : List Token} (spells : Spells b tokens) : ofBytes? b = some tokens :=
  spells.scanAll_eq (Nat.le_refl _) []

end ReplyGateway.Json.Token
