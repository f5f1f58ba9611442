namespace ReplyGateway

theorem filterMap_concat {α β : Type} (f : α → Option β) (l : List α) (x : α) :
    (l ++ [x]).filterMap f = l.filterMap f ++ (f x).toList := by
  cases value : f x <;> simp [value]

section Reading

variable {α β : Type} {f g : α → Option β} {as : List α} {bs : List β}

/-- What is read from a list is read from its elements. -/
theorem mem_of_mapM_eq_some (read : as.mapM f = some bs) {b : β} (mem : b ∈ bs) : ∃ a ∈ as, f a = some b := by
  induction as generalizing bs with
  | nil => simp_all
  | cons a as ih =>
    simp only [List.mapM_cons, Option.bind_eq_bind, Option.pure_def, Option.bind_eq_some_iff] at read
    obtain ⟨first, head, rest, tail, both⟩ := read
    obtain rfl := Option.some.inj both
    rcases List.mem_cons.1 mem with rfl | later
    · exact ⟨a, List.mem_cons_self .., head⟩
    · obtain ⟨a', among, same⟩ := ih tail later
      exact ⟨a', List.mem_cons_of_mem _ among, same⟩

/-- A list cannot be read if one of its elements cannot, and only then. -/
theorem mapM_eq_none_iff : as.mapM f = none ↔ ∃ a ∈ as, f a = none := by
  induction as with
  | nil => simp
  | cons a as ih =>
    simp only [List.mem_cons, exists_eq_or_imp, ← ih]
    cases head : f a <;> cases tail : as.mapM f <;> simp [head, tail]

/-- How a list is read depends on how its own elements are read. -/
theorem mapM_congr_left (same : ∀ a ∈ as, f a = g a) : as.mapM f = as.mapM g := by
  have maps (h : α → Option β) : (as.map h).mapM id = as.mapM h := List.mapM_map
  rw [← maps, ← maps, List.map_congr_left same]

/-- What is written for every element of a list is read as the list. -/
theorem mapM_eq_some_of_map {write : β → α} (inverse : ∀ b, f (write b) = some b) (bs : List β) :
    (bs.map write).mapM f = some bs := by
  induction bs with
  | nil => rfl
  | cons b bs ih => rw [List.map_cons, List.mapM_cons, inverse, ih]; rfl

end Reading

end ReplyGateway
