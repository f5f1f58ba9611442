import Mathlib
import ReplyGateway.Proofs.Json.Written

namespace ReplyGateway.Json.Value

/-- Whether all numbers in a value are whole and have 64 bits, and no more than `depth` arrays and objects lie inside
each other. -/
inductive IsPlain : Nat → Value → Prop
  | null {depth : Nat} : IsPlain depth .null
  | bool {depth : Nat} (b : Bool) : IsPlain depth (.bool b)
  | integer {depth : Nat} {n : Int} : -0x8000000000000000 ≤ n → n < 0x10000000000000000 →
      IsPlain depth (.number (.integer n))
  | string {depth : Nat} (s : String) : IsPlain depth (.string s)
  | array {depth : Nat} {items : List Value} : (∀ v ∈ items, IsPlain depth v) → IsPlain (depth + 1) (.array items)
  | object {depth : Nat} {members : List (String × Value)} : (∀ m ∈ members, IsPlain depth m.2) →
      IsPlain (depth + 1) (.object members)

theorem exists_documents? {depth : Nat} {items : List Value}
    (each : ∀ v ∈ items, ∃ d, v.document? = some d ∧ d.value? depth = some v) :
    ∃ ds, documents? items = some ds ∧ ds.mapM (Document.value? depth) = some items := by
  induction items with
  | nil => exact ⟨[], rfl, rfl⟩
  | cons v items ih =>
    obtain ⟨d, written, read⟩ := each v (.head _)
    obtain ⟨ds, writtenRest, readRest⟩ := ih fun w mem => each w (.tail _ mem)
    exact ⟨d :: ds, by simp [documents?, written, writtenRest], by simp [read, readRest]⟩

theorem exists_memberDocuments?_value? {depth : Nat} {members : List (String × Value)}
    (each : ∀ m ∈ members, ∃ d, m.2.document? = some d ∧ d.value? depth = some m.2) :
    ∃ ds, memberDocuments? members = some ds ∧
      (ds.mapM fun ((name, d) : Bytes × Document) => do
        return (← Quoted.decode name, ← Document.value? depth d)) = some members := by
  induction members with
  | nil => exact ⟨[], rfl, rfl⟩
  | cons m members ih =>
    obtain ⟨d, written, read⟩ := each m (.head _)
    obtain ⟨ds, writtenRest, readRest⟩ := ih fun n mem => each n (.tail _ mem)
    refine ⟨(Quoted.written m.1, d) :: ds, by simp [memberDocuments?, written, writtenRest], ?_⟩
    rw [List.mapM_cons, readRest]
    simp [Quoted.decode_written, read]

/-- The text of a value is a document that is read throughout as the value, if its numbers are whole and it is not too
deep. -/
theorem IsPlain.exists_document {depth : Nat} {v : Value} (plain : IsPlain depth v) :
    ∃ d, v.document? = some d ∧ d.value? depth = some v := by
  induction plain with
  | @null depth => cases depth <;> exact ⟨.null, rfl, rfl⟩
  | @bool depth b => cases depth <;> exact ⟨.bool b, rfl, rfl⟩
  | @integer depth n low high =>
    refine ⟨.number (.ofInt n), rfl, ?_⟩
    have read := Numeral.value?_ofInt low high
    cases depth <;> simp [Document.value?, read]
  | @string depth s =>
    refine ⟨.string (Quoted.written s), rfl, ?_⟩
    cases depth <;> simp [Document.value?, Quoted.decode_written]
  | @array depth items _ ih =>
    obtain ⟨ds, written, read⟩ := exists_documents? ih
    exact ⟨.array ds, by rw [document?, written]; rfl, by rw [Document.value?, read]; rfl⟩
  | @object depth members _ ih =>
    obtain ⟨ds, written, read⟩ := exists_memberDocuments?_value? ih
    exact ⟨.object ds, by rw [document?, written]; rfl, by rw [Document.value?, read]; rfl⟩

end ReplyGateway.Json.Value
