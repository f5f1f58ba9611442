import Mathlib
import ReplyGateway.Proofs.Sha1.Pieces
import ReplyGateway.Signature

namespace ReplyGateway

namespace Bytes

theorem digitChar_mem {n : Nat} (small : n < 16) : Nat.digitChar n ∈ "0123456789abcdef".toList := by
  revert n
  decide

theorem length_toHex (b : Bytes) : b.toHex.length = 2 * b.length := by
  rw [toHex, String.length_ofList, hexDigits, List.length_flatMap]
  simp [Nat.mul_comm]

theorem mem_toHex {b : Bytes} {c : Char} (mem : c ∈ b.toHex.toList) : c ∈ "0123456789abcdef".toList := by
  rw [toHex, String.toList_ofList, hexDigits, List.mem_flatMap] at mem
  obtain ⟨x, _, digit⟩ := mem
  have bound := x.toNat_lt
  simp only [List.mem_cons, List.not_mem_nil, or_false] at digit
  rcases digit with rfl | rfl
  · exact digitChar_mem (by omega)
  · exact digitChar_mem (by omega)

end Bytes

namespace Signature

/-- The same parts, each as often, in ascending order of their bytes. -/
structure Arranges (sorted parts : List String) : Prop where
  perm : sorted.Perm parts
  ascending : sorted.Pairwise fun a b => Bytes.ofString a ≤ Bytes.ofString b

variable {sorted parts other : List String}

theorem pairwise_mergeSort {α : Type} (bytes : α → Bytes) (l : List α) :
    (l.mergeSort fun a b => decide (bytes a ≤ bytes b)).Pairwise fun a b => bytes a ≤ bytes b := by
  have sorts := @List.pairwise_mergeSort α (fun a b => decide (bytes a ≤ bytes b))
    (fun a b c first second => decide_eq_true (List.le_trans (of_decide_eq_true first) (of_decide_eq_true second)))
    (fun a b => by simpa using List.le_total (bytes a) (bytes b)) l
  exact sorts.imp of_decide_eq_true

theorem exists_arranges (parts : List String) : ∃ sorted, Arranges sorted parts :=
  ⟨_, List.mergeSort_perm .., pairwise_mergeSort Bytes.ofString parts⟩

theorem perm_sortedParts (parts : List String) : (sortedParts parts).Perm (parts.map Bytes.ofString) :=
  List.mergeSort_perm ..

theorem pairwise_sortedParts (parts : List String) : (sortedParts parts).Pairwise (· ≤ ·) :=
  pairwise_mergeSort id _

/-- The bytes of the parts have one ascending order, whatever order they were given in. -/
theorem Arranges.map_eq (arranges : Arranges sorted parts) : sorted.map Bytes.ofString = sortedParts parts :=
  (arranges.perm.map _ |>.trans (perm_sortedParts parts).symm).eq_of_pairwise (fun _ _ _ _ => List.le_antisymm)
    (List.pairwise_map.2 arranges.ascending) (pairwise_sortedParts parts)

theorem Arranges.of_perm (arranges : Arranges sorted parts) (perm : other.Perm parts) : Arranges sorted other :=
  ⟨arranges.perm.trans perm.symm, arranges.ascending⟩

/-- A signature is the digest of the sorted parts as one message. -/
theorem compute_eq (parts : List String) : compute parts = (Sha1.digest (sortedParts parts).flatten).toHex := by
  rw [compute, Sha1.Hasher.finish_foldl_update]

theorem length_compute (parts : List String) : (compute parts).length = 40 := by
  rw [compute_eq, Bytes.length_toHex, Sha1.length_digest]

/-- The signature of parts is what SHA-1 makes of them in ascending order, in whatever pieces it gets them, and any
other order of the parts gives the same. It has forty digits, and no other text is accepted. -/
theorem compute_canonical (parts : List String) :
    (∃ sorted, Arranges sorted parts) ∧
      (∀ sorted, Arranges sorted parts → ∀ pieces : List Bytes, pieces.flatten = sorted.flatMap Bytes.ofString →
        compute parts = (Sha1.digest (sorted.flatMap Bytes.ofString)).toHex ∧
        compute parts = (pieces.foldl Sha1.Hasher.update .start).finish.toHex) ∧
      (∀ other, other.Perm parts → compute other = compute parts) ∧
      (compute parts).length = 40 ∧ (∀ c ∈ (compute parts).toList, c ∈ "0123456789abcdef".toList) ∧
      (∀ signature, verify signature parts = true ↔ signature = compute parts) := by
  have joined {sorted others : List String} (arranges : Arranges sorted others) :
      compute others = (Sha1.digest (sorted.flatMap Bytes.ofString)).toHex := by
    rw [compute_eq, ← arranges.map_eq, List.flatMap]
  refine ⟨exists_arranges parts, fun sorted arranges pieces cut => ⟨joined arranges, ?_⟩, fun other perm => ?_,
    length_compute parts, fun c mem => ?_, fun signature => verify_iff⟩
  · rw [joined arranges, Sha1.Hasher.finish_foldl_update, cut]
  · obtain ⟨sorted, arranges⟩ := exists_arranges parts
    rw [joined arranges, joined (arranges.of_perm perm)]
  · rw [compute_eq] at mem
    exact Bytes.mem_toHex mem

/-- One part is empty and one comes twice, and the pieces are not the parts. -/
theorem compute_canonical_of_repeated :
    Arranges ["", "a", "b", "b"] ["b", "", "a", "b"] ∧ ["a", "b", "b", ""].Perm ["b", "", "a", "b"] ∧
      compute ["b", "", "a", "b"] = "c64d3fcde20c5cd03142171e5ac47a87aa3c8ace" ∧
      compute ["a", "b", "b", ""] = compute ["b", "", "a", "b"] ∧
      ([[97], [], [98, 98]].foldl Sha1.Hasher.update .start).finish.toHex =
        "c64d3fcde20c5cd03142171e5ac47a87aa3c8ace" ∧
      verify "c64d3fcde20c5cd03142171e5ac47a87aa3c8ace" ["b", "", "a", "b"] = true ∧
      verify "C64D3FCDE20C5CD03142171E5AC47A87AA3C8ACE" ["b", "", "a", "b"] = false := by
  have arranges : Arranges ["", "a", "b", "b"] ["b", "", "a", "b"] := ⟨by decide +kernel, by decide +kernel⟩
  have perm : ["a", "b", "b", ""].Perm ["b", "", "a", "b"] := by decide +kernel
  have cut : [[97], [], [98, 98]].flatten = ["", "a", "b", "b"].flatMap Bytes.ofString := by decide +kernel
  have digest : (Sha1.digest (["", "a", "b", "b"].flatMap Bytes.ofString)).toHex =
      "c64d3fcde20c5cd03142171e5ac47a87aa3c8ace" := by decide +kernel
  obtain ⟨_, pieces, orders, _, _, accepted⟩ := compute_canonical ["b", "", "a", "b"]
  obtain ⟨whole, inPieces⟩ := pieces _ arranges _ cut
  have value := whole.trans digest
  refine ⟨arranges, perm, value, orders _ perm, inPieces.symm.trans value, (accepted _).2 value.symm, ?_⟩
  rw [Bool.eq_false_iff, Ne, accepted, value]
  decide +kernel

end Signature
end ReplyGateway
