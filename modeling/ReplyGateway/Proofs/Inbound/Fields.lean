import Mathlib
import ReplyGateway.Proofs.Inbound.Form

namespace ReplyGateway.Inbound

/-- The entries of a form one by one, each written in its own way, with others anywhere between them. -/
inductive Interleaves {α : Type} (known : Field → Entry → α → Prop) (other : α → Prop) : Form → List α → Prop
  | nil : Interleaves known other [] []
  | known {field : Field} {entry : Entry} {a : α} {form : Form} {rest : List α} : known field entry a →
      Interleaves known other form rest → Interleaves known other ((field, entry) :: form) (a :: rest)
  | other {a : α} {form : Form} {rest : List α} : other a → Interleaves known other form rest →
      Interleaves known other form (a :: rest)

theorem Interleaves.forall_mem {α : Type} {known : Field → Entry → α → Prop} {other : α → Prop} {form : Form}
    {as : List α} (interleaves : Interleaves known other form as) {P : Field → Entry → Prop}
    (holds : ∀ field entry a, known field entry a → P field entry) : ∀ p ∈ form, P p.1 p.2 := by
  induction interleaves with
  | nil => simp
  | known isKnown _ ih => exact List.forall_mem_cons.2 ⟨holds _ _ _ isKnown, ih⟩
  | other _ _ ih => exact ih

/-- If every field holds what the form says, the form is read. -/
theorem Form.ofFields?_map {α : Type} {read? : Shape → α → Option Entry} {form : Form} {given : Field → Option α}
    (holds : ∀ f, (given f).map (read? f.shape) = (form.lookup f).map some) :
    Form.ofFields? read? (Field.all.map given) = some form.arranged := by
  have onto (fields : List Field) :
      ((fields.zip (fields.map given)).filterMap fun field => field.2.map (field.1, ·)).mapM
        (fun field => (read? field.1.shape field.2).map (field.1, ·)) =
          some (fields.filterMap fun f => (form.lookup f).map (f, ·)) := by
    induction fields with
    | nil => rfl
    | cons f fields ih =>
      have here := holds f
      cases found : given f with
      | none =>
        have absent : form.lookup f = none := by simpa [found] using here.symm
        simpa [found, absent] using ih
      | some a =>
        obtain ⟨entry, present, read⟩ : ∃ entry, form.lookup f = some entry ∧ read? f.shape a = some entry := by
          cases present : form.lookup f with
          | none => simp [found, present] at here
          | some entry => exact ⟨entry, rfl, by simpa [found, present] using here⟩
        simp [found, present, read, ih]
  exact onto Field.all

/-- What a reader does that puts things into the fields of their names. -/
structure Fills {α β : Type} (fill : List (Option β) → List α → Option (List (Option β)))
    (read? : Shape → β → Option Entry) (known : Field → Entry → α → Prop) (other : α → Prop) : Prop where
  nil : ∀ fields, fill fields [] = some fields
  other : ∀ fields a rest, other a → fill fields (a :: rest) = fill fields rest
  known : ∀ field entry a, known field entry a → ∃ b, read? field.shape b = some entry ∧
    ∀ fields rest, fields.getD (Field.all.idxOf field) none = none →
      fill fields (a :: rest) = fill (fields.set (Field.all.idxOf field) (some b)) rest

namespace Fills

variable {α β : Type} {fill : List (Option β) → List α → Option (List (Option β))}
  {read? : Shape → β → Option Entry} {known : Field → Entry → α → Prop} {other : α → Prop} {form : Form} {as : List α}

/-- Fields that are free are filled, and all others are left as they are. -/
theorem fill_eq (fills : Fills fill read? known other) (interleaves : Interleaves known other form as)
    (once : form.IsOnce) {found : Field → Option β} (free : ∀ f ∈ form.map Prod.fst, found f = none) :
    ∃ given : Field → Option β, fill (Field.all.map found) as = some (Field.all.map given) ∧
      ∀ f, (given f).map (read? f.shape) = ((form.lookup f).map some).or ((found f).map (read? f.shape)) := by
  induction interleaves generalizing found with
  | nil => exact ⟨found, fills.nil _, fun f => rfl⟩
  | @known field entry a form rest isKnown _ ih =>
    obtain ⟨notIn, once⟩ := List.nodup_cons.1 once
    obtain ⟨b, read, step⟩ := fills.known field entry a isKnown
    have isFree : (Field.all.map found).getD (Field.all.idxOf field) none = none := by
      rw [List.getD_eq_getElem?_getD, List.getElem?_map, List.getElem?_idxOf field.mem_all]
      exact free field (by simp)
    have put : (Field.all.map found).set (Field.all.idxOf field) (some b) =
        Field.all.map (Function.update found field (some b)) := by
      rw [Field.nodup_all.map_update, if_pos field.mem_all]
    have free' : ∀ f ∈ form.map Prod.fst, Function.update found field (some b) f = none := by
      intro f mem
      have ne : f ≠ field := fun same => notIn (same ▸ mem)
      rw [Function.update_of_ne ne, free f (by simp [mem])]
    obtain ⟨given, filled, holds⟩ := ih once free'
    refine ⟨given, by rw [step _ _ isFree, put, filled], fun f => (holds f).trans ?_⟩
    by_cases same : f = field
    · subst same
      rw [List.lookup_cons_self, Form.lookup_eq_none_iff.2 notIn, Function.update_self]
      simp [read]
    · rw [Form.lookup_cons_of_ne same, Function.update_of_ne same]
  | @other a form rest isOther _ ih =>
    obtain ⟨given, filled, holds⟩ := ih once free
    exact ⟨given, by rw [fills.other _ _ _ isOther, filled], holds⟩

/-- Of a record that holds the entries of a form, in any order and among others, the form is read. -/
theorem bind_ofFields? (fills : Fills fill read? known other) (interleaves : Interleaves known other form as)
    (once : form.IsOnce) :
    (fill (Field.all.map fun _ => none) as).bind (Form.ofFields? read?) = some form.arranged := by
  obtain ⟨given, filled, holds⟩ := fills.fill_eq interleaves once fun _ _ => rfl
  have holds' (f : Field) : (given f).map (read? f.shape) = (form.lookup f).map some := by simpa using holds f
  rw [filled, Option.bind_some, Form.ofFields?_map holds']

end Fills
end ReplyGateway.Inbound
