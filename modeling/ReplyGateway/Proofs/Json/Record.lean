import Mathlib
import ReplyGateway.Json.Tree

namespace ReplyGateway.Json.Tree

variable {Text Num : Type} {readName : Text → Option String} {names : List String}
  {members members' : List (Text × Tree Text Num)}

/-- What stands under a name among the members of an object. -/
def under (readName : Text → Option String) (name : String) (members : List (Text × Tree Text Num)) :
    List (Tree Text Num) :=
  members.filterMap fun m => if readName m.1 = some name then some m.2 else none

theorem under_cons_of_eq {m : Text × Tree Text Num} {name : String} (named : readName m.1 = some name)
    (members : List (Text × Tree Text Num)) :
    under readName name (m :: members) = m.2 :: under readName name members :=
  List.filterMap_cons_some (if_pos named)

theorem under_cons_of_ne {m : Text × Tree Text Num} {name : String} (other : readName m.1 ≠ some name)
    (members : List (Text × Tree Text Num)) : under readName name (m :: members) = under readName name members :=
  List.filterMap_cons_none (if_neg other)

theorem under_eq_nil_iff {name : String} :
    under readName name members = [] ↔ ∀ m ∈ members, readName m.1 ≠ some name := by
  simp [under, List.filterMap_eq_nil_iff]

theorem mem_under_iff {t : Tree Text Num} {name : String} :
    t ∈ under readName name members ↔ ∃ key, (key, t) ∈ members ∧ readName key = some name := by
  rw [under, List.mem_filterMap]
  constructor
  · rintro ⟨m, mem, is⟩
    rw [Option.ite_none_right_eq_some, Option.some.injEq] at is
    exact ⟨m.1, is.2 ▸ mem, is.1⟩
  · rintro ⟨key, mem, named⟩
    exact ⟨(key, t), mem, if_pos named⟩

section Fields

variable {fields : List (Option (Tree Text Num))} {found : String → Option (Tree Text Num)} {key : Text}
  {t : Tree Text Num} {name : String}

theorem fillFields_of_notMem (named : readName key = some name) (absent : name ∉ names) :
    fillFields readName names fields ((key, t) :: members) = fillFields readName names fields members := by
  have place : position? names name = none := by
    rw [position?, List.findIdx?_eq_none_iff]
    exact fun other mem => beq_eq_false_iff_ne.2 fun same => absent (same ▸ mem)
  simp only [fillFields, named, place]

/-- Members of other names may be left out. -/
theorem fillFields_filter {p : Text × Tree Text Num → Bool}
    (others : ∀ m ∈ members, p m = false → ∃ name, readName m.1 = some name ∧ name ∉ names) :
    fillFields readName names fields (members.filter p) = fillFields readName names fields members := by
  induction members generalizing fields with
  | nil => rfl
  | cons m rest ih =>
    obtain ⟨other, others⟩ := List.forall_mem_cons.1 others
    cases kept : p m with
    | false =>
      obtain ⟨name, named, absent⟩ := other kept
      rw [List.filter_cons_of_neg (by simp [kept]), ih others, fillFields_of_notMem named absent]
    | true =>
      rw [List.filter_cons_of_pos kept, fillFields, fillFields]
      simp only [ih others]

/-- A name of a record stands at its place among the names, and is written there. -/
theorem fillFields_of_mem (nodup : names.Nodup) (named : readName key = some name) (mem : name ∈ names) :
    fillFields readName names (names.map found) ((key, t) :: members) =
      if (found name).isSome then none
      else fillFields readName names (names.map (Function.update found name (some t))) members := by
  have place : position? names name = some (names.idxOf name) :=
    List.findIdx?_eq_some_iff_findIdx_eq.2 ⟨List.idxOf_lt_length_of_mem mem, rfl⟩
  have held : (names.map found).getD (names.idxOf name) none = found name := by
    rw [List.getD_eq_getElem?_getD, List.getElem?_map, List.getElem?_idxOf mem]
    rfl
  simp only [fillFields, named, place, held, nodup.map_update, if_pos mem]

/-- Fields are filled with what stands under their names, if nothing is there yet and each is given at most once. -/
theorem fillFields_map (nodup : names.Nodup) :
    fillFields readName names (names.map found) members = some fields ↔
      (∀ m ∈ members, (readName m.1).isSome = true) ∧
        (∀ name ∈ names, ((found name).toList ++ under readName name members).length ≤ 1) ∧
        fields = names.map fun name => ((found name).toList ++ under readName name members).head? := by
  induction members generalizing found with
  | nil =>
    have short (name : String) : (found name).toList.length ≤ 1 := by cases found name <;> simp
    have same (name : String) : (found name).toList.head? = found name := by cases found name <;> rfl
    have none (name : String) : under readName name ([] : List (Text × Tree Text Num)) = [] := rfl
    simp only [fillFields, Option.some.injEq, none, List.append_nil, short, same, List.not_mem_nil, false_implies,
      implies_true, true_and]
    exact eq_comm
  | cons m rest ih =>
    obtain ⟨key, t⟩ := m
    cases named : readName key with
    | none => simp [fillFields, named]
    | some name =>
      have elsewhere {other : String} (ne : other ≠ name) :
          under readName other ((key, t) :: rest) = under readName other rest :=
        under_cons_of_ne (by simpa [named] using ne.symm) rest
      rw [List.forall_mem_cons, named, Option.isSome_some, eq_self, true_and]
      by_cases mem : name ∈ names
      · have here := under_cons_of_eq (m := (key, t)) named rest
        rw [fillFields_of_mem nodup named mem]
        cases taken : found name with
        | some earlier =>
          rw [Option.isSome_some, if_pos rfl]
          refine iff_of_false (by simp) fun ⟨_, once, _⟩ => ?_
          have twice := once name mem
          rw [here, taken] at twice
          simp at twice
        | none =>
          have same (other : String) :
              (Function.update found name (some t) other).toList ++ under readName other rest =
                (found other).toList ++ under readName other ((key, t) :: rest) := by
            by_cases equal : other = name
            · subst equal
              rw [here, taken, Function.update_self]
              rfl
            · rw [elsewhere equal, Function.update_of_ne equal]
          simp only [Option.isSome_none, Bool.false_eq_true, if_false, ih, same]
      · have outside : ∀ other ∈ names, under readName other ((key, t) :: rest) = under readName other rest :=
          fun other among => elsewhere fun same => mem (same ▸ among)
        rw [fillFields_of_notMem named mem, ih]
        refine and_congr_right fun _ => and_congr ?_ ?_
        · exact forall₂_congr fun other among => by rw [outside other among]
        · rw [List.map_congr_left fun other among => congrArg _ (congrArg _ (outside other among))]

end Fields

/-- Whether all names of an object can be read, and none of those of a record is given twice. -/
structure IsRecord (readName : Text → Option String) (names : List String) (members : List (Text × Tree Text Num)) :
    Prop where
  readable : ∀ m ∈ members, (readName m.1).isSome = true
  once : ∀ name ∈ names, (under readName name members).length ≤ 1

/-- What is given under a name of a record is all that stands there. -/
theorem IsRecord.under_eq (record : IsRecord readName names members) {name : String} (among : name ∈ names)
    {m : Text × Tree Text Num} (mem : m ∈ members) (named : readName m.1 = some name) :
    under readName name members = [m.2] := by
  have there : m.2 ∈ under readName name members := mem_under_iff.2 ⟨m.1, mem, named⟩
  have short := record.once name among
  obtain ⟨t, only⟩ := List.length_eq_one_iff.1 (Nat.le_antisymm short (List.length_pos_of_mem there))
  rw [only, List.mem_singleton] at there
  rw [only, there]

/-- Every field of a record is what stands under its name. -/
theorem record?_object_eq_some_iff (nodup : names.Nodup) {fields : List (Option (Tree Text Num))} :
    record? readName names (.object members) = some fields ↔
      IsRecord readName names members ∧ fields = names.map fun name => (under readName name members).head? := by
  have filled : fillFields readName names (names.map fun _ => none) members = some fields ↔ _ := fillFields_map nodup
  simp only [Option.toList_none, List.nil_append] at filled
  rw [record?, filled, ← and_assoc]
  exact and_congr_left fun _ => ⟨fun h => ⟨h.1, h.2⟩, fun h => ⟨h.1, h.2⟩⟩

/-- Members of names that a record does not have may be left out. -/
theorem record?_filter {p : Text × Tree Text Num → Bool}
    (others : ∀ m ∈ members, p m = false → ∃ name, readName m.1 = some name ∧ name ∉ names) :
    record? readName names (.object (members.filter p)) = record? readName names (.object members) :=
  fillFields_filter others

/-- Where names stand beside as many values, every name has its own value under it. -/
theorem map_under_zip (key : String → Text) (decodes : ∀ name ∈ names, readName (key name) = some name)
    (nodup : names.Nodup) {values : List (Tree Text Num)} (length : values.length = names.length) :
    (names.map fun name => under readName name ((names.map key).zip values)) = values.map ([·]) := by
  induction names generalizing values with
  | nil => rw [List.length_eq_zero_iff.1 length]; rfl
  | cons name names ih =>
    obtain ⟨v, values, rfl⟩ := List.exists_cons_of_length_eq_add_one length
    obtain ⟨fresh, nodup⟩ := List.nodup_cons.1 nodup
    obtain ⟨decodesName, decodes⟩ := List.forall_mem_cons.1 decodes
    have apart : ∀ other ∈ names, readName (key name) ≠ some other := by
      rintro other mem same
      exact fresh (Option.some.inj (decodesName.symm.trans same) ▸ mem)
    have none : under readName name ((names.map key).zip values) = [] := by
      refine under_eq_nil_iff.2 fun m mem same => ?_
      obtain ⟨other, among, is⟩ := List.mem_map.1 (List.of_mem_zip mem).1
      rw [← is, decodes other among] at same
      exact fresh (Option.some.inj same ▸ among)
    rw [List.map_cons, List.map_cons, List.map_cons, List.zip_cons_cons, under_cons_of_eq decodesName, none,
      ← ih decodes nodup (Nat.succ.inj length)]
    exact congrArg _ (List.map_congr_left fun other mem => under_cons_of_ne (apart other mem) _)

/-- A record is read back from its values, if each stands under its name. -/
theorem record?_zip (key : String → Text) (decodes : ∀ name ∈ names, readName (key name) = some name)
    (nodup : names.Nodup) {values : List (Tree Text Num)} (length : values.length = names.length) :
    record? readName names (.object ((names.map key).zip values)) = some (values.map some) := by
  have each := map_under_zip key decodes nodup length
  refine (record?_object_eq_some_iff nodup).2 ⟨⟨fun m mem => ?_, fun name mem => ?_⟩, ?_⟩
  · obtain ⟨name, among, same⟩ := List.mem_map.1 (List.of_mem_zip mem).1
    rw [← same, decodes name among, Option.isSome_some]
  · have own := List.mem_map_of_mem (f := fun name => under readName name ((names.map key).zip values)) mem
    rw [each, List.mem_map] at own
    obtain ⟨v, _, same⟩ := own
    rw [← same, List.length_singleton]
  · have heads := congrArg (List.map List.head?) each
    rw [List.map_map, List.map_map] at heads
    exact heads.symm

/-- Members that say the same to a reader of some names. `IsBlank` tells what says as much under a name as nothing,
and `Same` which two things say the same. -/
inductive Alike (readName : Text → Option String) (names : List String) (IsBlank : String → Tree Text Num → Prop)
    (Same : String → Tree Text Num → Tree Text Num → Prop) :
    List (Text × Tree Text Num) → List (Text × Tree Text Num) → Prop
  | order {members members' : List (Text × Tree Text Num)} : members.Perm members' →
      Alike readName names IsBlank Same members members'
  | other {name : String} {key : Text} {t : Tree Text Num} {members : List (Text × Tree Text Num)} :
      readName key = some name → name ∉ names → Alike readName names IsBlank Same ((key, t) :: members) members
  | blank {name : String} {key : Text} {t : Tree Text Num} {members : List (Text × Tree Text Num)} :
      readName key = some name → IsBlank name t → (∀ m ∈ members, readName m.1 ≠ some name) →
      Alike readName names IsBlank Same ((key, t) :: members) members
  | inside {name : String} {key key' : Text} {t t' : Tree Text Num} {members : List (Text × Tree Text Num)} :
      readName key = some name → readName key' = some name → Same name t t' →
      Alike readName names IsBlank Same ((key, t) :: members) ((key', t') :: members)
  | symm {members members' : List (Text × Tree Text Num)} : Alike readName names IsBlank Same members members' →
      Alike readName names IsBlank Same members' members
  | trans {members members' members'' : List (Text × Tree Text Num)} :
      Alike readName names IsBlank Same members members' → Alike readName names IsBlank Same members' members'' →
      Alike readName names IsBlank Same members members''

/-- The order of members shows in the order of what stands under one name, and nowhere else. -/
theorem under_perm (same : members.Perm members') (name : String) :
    (under readName name members).Perm (under readName name members') := same.filterMap _

/-- Two lists of what stands under a name are good for a field at the same time, and then `E` holds of both fields. -/
def Agree (E : Option (Tree Text Num) → Option (Tree Text Num) → Prop) (ts ts' : List (Tree Text Num)) : Prop :=
  (ts.length ≤ 1 ↔ ts'.length ≤ 1) ∧ (ts.length ≤ 1 → E ts.head? ts'.head?)

section Alike

variable {E : Option (Tree Text Num) → Option (Tree Text Num) → Prop}

/-- At most one thing has no order. -/
theorem Agree.of_perm (equivalence : Equivalence E) {ts ts' : List (Tree Text Num)} (perm : ts.Perm ts') :
    Agree E ts ts' := by
  refine ⟨by rw [perm.length_eq], fun short => ?_⟩
  match ts, short, perm with
  | [], _, perm => rw [perm.nil_eq]; exact equivalence.refl _
  | [t], _, perm => rw [List.perm_singleton.1 perm.symm]; exact equivalence.refl _

theorem Agree.cons {t t' : Tree Text Num} (same : E (some t) (some t')) (ts : List (Tree Text Num)) :
    Agree E (t :: ts) (t' :: ts) := ⟨by simp, fun _ => same⟩

theorem Agree.symm (equivalence : Equivalence E) {ts ts' : List (Tree Text Num)} (agree : Agree E ts ts') :
    Agree E ts' ts := ⟨agree.1.symm, fun short => equivalence.symm (agree.2 (agree.1.2 short))⟩

theorem Agree.trans (equivalence : Equivalence E) {ts ts' ts'' : List (Tree Text Num)} (agree : Agree E ts ts')
    (agree' : Agree E ts' ts'') : Agree E ts ts'' :=
  ⟨agree.1.trans agree'.1, fun short => equivalence.trans (agree.2 short) (agree'.2 (agree.1.1 short))⟩

variable {IsBlank : String → Tree Text Num → Prop} {Same : String → Tree Text Num → Tree Text Num → Prop}
  {E : String → Option (Tree Text Num) → Option (Tree Text Num) → Prop}

/-- What stands under a name of a record is alike in members that are alike. -/
theorem Alike.agree (equivalence : ∀ name, Equivalence (E name))
    (blank : ∀ name t, IsBlank name t → E name (some t) none)
    (inside : ∀ name t t', Same name t t' → E name (some t) (some t'))
    (alike : Alike readName names IsBlank Same members members') :
    ((∀ m ∈ members, (readName m.1).isSome = true) ↔ ∀ m ∈ members', (readName m.1).isSome = true) ∧
      ∀ name ∈ names, Agree (E name) (under readName name members) (under readName name members') := by
  induction alike with
  | order same =>
    refine ⟨forall_congr' fun m => by rw [same.mem_iff], fun name _ => ?_⟩
    exact .of_perm (equivalence name) (under_perm same name)
  | @other name key t members named absent =>
    refine ⟨by simp [named], fun other mem => ?_⟩
    rw [under_cons_of_ne (by rw [named]; rintro ⟨⟩; exact absent mem)]
    exact .of_perm (equivalence other) (.refl _)
  | @blank name key t members named isBlank free =>
    refine ⟨by simp [named], fun other mem => ?_⟩
    by_cases same : other = name
    · subst same
      rw [under_cons_of_eq named, under_eq_nil_iff.2 free]
      exact ⟨by simp, fun _ => blank other t isBlank⟩
    · rw [under_cons_of_ne (by simpa [named] using Ne.symm same)]
      exact .of_perm (equivalence other) (.refl _)
  | @inside name key key' t t' members named named' alike =>
    refine ⟨by simp [named, named'], fun other mem => ?_⟩
    by_cases same : other = name
    · subst same
      rw [under_cons_of_eq named, under_cons_of_eq named']
      exact .cons (inside other t t' alike) _
    · rw [under_cons_of_ne (by simpa [named] using Ne.symm same),
        under_cons_of_ne (by simpa [named'] using Ne.symm same)]
      exact .of_perm (equivalence other) (.refl _)
  | symm _ ih => exact ⟨ih.1.symm, fun name mem => (ih.2 name mem).symm (equivalence name)⟩
  | trans _ _ first second =>
    exact ⟨first.1.trans second.1, fun name mem => (first.2 name mem).trans (equivalence name) (second.2 name mem)⟩

/-- Of members that are alike, both make a record, with fields that are alike, or neither does. -/
theorem Alike.record?_cases (nodup : names.Nodup) (equivalence : ∀ name, Equivalence (E name))
    (blank : ∀ name t, IsBlank name t → E name (some t) none)
    (inside : ∀ name t t', Same name t t' → E name (some t) (some t'))
    (alike : Alike readName names IsBlank Same members members') :
    record? readName names (.object members) = none ∧ record? readName names (.object members') = none ∨
      ∃ found found', record? readName names (.object members) = some (names.map found) ∧
        record? readName names (.object members') = some (names.map found') ∧
        ∀ name ∈ names, E name (found name) (found' name) := by
  obtain ⟨readable, agree⟩ := alike.agree equivalence blank inside
  have together : IsRecord readName names members ↔ IsRecord readName names members' :=
    ⟨fun record => ⟨readable.1 record.readable, fun name mem => (agree name mem).1.1 (record.once name mem)⟩,
      fun record => ⟨readable.2 record.readable, fun name mem => (agree name mem).1.2 (record.once name mem)⟩⟩
  have none {members : List (Text × Tree Text Num)} (not : ¬ IsRecord readName names members) :
      record? readName names (.object members) = none :=
    Option.eq_none_iff_forall_ne_some.2 fun _ read => not ((record?_object_eq_some_iff nodup).1 read).1
  by_cases record : IsRecord readName names members
  · exact .inr ⟨_, _, (record?_object_eq_some_iff nodup).2 ⟨record, rfl⟩,
      (record?_object_eq_some_iff nodup).2 ⟨together.1 record, rfl⟩,
      fun name mem => (agree name mem).2 (record.once name mem)⟩
  · exact .inl ⟨none record, none fun record' => record (together.2 record')⟩

end Alike

end ReplyGateway.Json.Tree
