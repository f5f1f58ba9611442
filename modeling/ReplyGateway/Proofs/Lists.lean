import Mathlib
import ReplyGateway.Lists

namespace ReplyGateway

variable {α β : Type} {R : α → β → Prop} {first rest : List α} {a : α} {bs : List β} {f : α → Option β}

/-- A list is read element by element. -/
theorem mapM_eq_some_iff_forall₂ : first.mapM f = some bs ↔ List.Forall₂ (fun a b => f a = some b) first bs := by
  induction first generalizing bs with
  | nil => cases bs <;> simp
  | cons a first ih =>
    cases bs with
    | nil => simp [Option.bind_eq_some_iff]
    | cons b bs => simp [Option.bind_eq_some_iff, ih]

/-- Lists are read alike if their elements are, one by one. -/
theorem mapM_congr_of_forall₂ {S : α → α → Prop} (congr : ∀ a a', S a a' → f a = f a') {as as' : List α}
    (each : List.Forall₂ S as as') : as.mapM f = as'.mapM f := by
  induction each with
  | nil => rfl
  | cons same _ ih => rw [List.mapM_cons, List.mapM_cons, congr _ _ same, ih]

/-- Where one of two related lists is divided at an element, so is the other. -/
theorem forall₂_append_cons (related : List.Forall₂ R (first ++ a :: rest) bs) :
    ∃ firsts b rests, bs = firsts ++ b :: rests ∧ List.Forall₂ R first firsts ∧ R a b ∧ List.Forall₂ R rest rests := by
  induction first generalizing bs with
  | nil =>
    obtain ⟨b, rests, here, later, rfl⟩ := List.forall₂_cons_left_iff.mp related
    exact ⟨[], b, rests, rfl, .nil, here, later⟩
  | cons x first ih =>
    obtain ⟨y, others, here, later, rfl⟩ := List.forall₂_cons_left_iff.mp related
    obtain ⟨firsts, b, rests, rfl, before, at', after⟩ := ih later
    exact ⟨y :: firsts, b, rests, rfl, .cons here before, at', after⟩

/-- Where some elements of one list are left out, those related to them can be left out of the other. -/
theorem exists_forall₂_filter (p : α → Bool) (related : List.Forall₂ R first bs) :
    ∃ kept, kept.Sublist bs ∧ List.Forall₂ R (first.filter p) kept := by
  induction related with
  | nil => exact ⟨[], .slnil, .nil⟩
  | @cons a b rest rests here later ih =>
    obtain ⟨kept, sub, related⟩ := ih
    by_cases holds : p a = true
    · exact ⟨b :: kept, sub.cons_cons b, by simpa [holds] using ⟨here, related⟩⟩
    · exact ⟨kept, sub.cons b, by simpa [holds] using related⟩

/-- What is in one of two related lists is related to something. -/
theorem exists_of_forall₂ {b : β} (related : List.Forall₂ R first bs) (member : b ∈ bs) : ∃ a, R a b := by
  induction related with
  | nil => cases member
  | cons here _ ih =>
    rcases List.mem_cons.mp member with rfl | later
    · exact ⟨_, here⟩
    · exact ih later

end ReplyGateway
