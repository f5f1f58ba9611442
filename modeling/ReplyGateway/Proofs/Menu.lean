import Mathlib
import ReplyGateway.Menu

namespace ReplyGateway

open Json (Document Value)

/-- The value that a text spells, with no more depth and no greater numbers than can be read. -/
def Json.Value.ofText? (s : String) : Option Value := (Document.ofString? s).bind (Document.value? Json.depthLimit)

namespace Menu

/-- A text is a menu with an entry for a button. Of several entries for it, this is the last one. -/
def HasEntry (s key : String) (entry : Value) : Prop :=
  ∃ before after, Value.ofText? s = some (.object (before ++ (key, entry) :: after)) ∧ key ∉ after.map Prod.fst

/-- A text is a menu with a payload for a button. Of members of one name inside the entry the last one counts, too. -/
def Holds (s key : String) (p : Payload) : Prop :=
  ∃ entry, HasEntry s key entry ∧ Payload.ofValue? entry.distinct = some p

/-- The reasons for which a text has nothing for a button. -/
inductive Skips (key : String) : String → Prop
  | empty : Skips key ""
  | notJson {s : String} : Value.ofText? s = none → Skips key s
  | notObject {s : String} {v : Value} : Value.ofText? s = some v → (∀ members, v ≠ .object members) → Skips key s
  | noEntry {s : String} {members : List (String × Value)} : Value.ofText? s = some (.object members) →
      key ∉ members.map Prod.fst → Skips key s
  | malformed {s : String} {entry : Value} : HasEntry s key entry → Payload.ofValue? entry.distinct = none → Skips key s

/-- A text differs from another one in an entry of another button, and both entries can be read inside a menu. -/
inductive Replaces (key : String) : String → String → Prop
  | entry {s s' other : String} {before after : List (Bytes × Document)} {name : Bytes} {d d' : Document} :
      Document.ofString? s = some (.object (before ++ (name, d) :: after)) →
      Document.ofString? s' = some (.object (before ++ (name, d') :: after)) →
      Json.Quoted.decode name = some other → other ≠ key →
      (d.value? (Json.depthLimit - 1)).isSome = true → (d'.value? (Json.depthLimit - 1)).isSome = true →
      Replaces key s s'

variable {s s' key : String} {members : List (String × Value)}

theorem isSome_lookup_reverse (key : String) (members : List (String × Value)) :
    (members.reverse.lookup key).isSome = members.any (·.1 == key) := by
  rw [Bool.eq_iff_iff, Option.isSome_iff_ne_none, ne_eq, List.lookup_eq_none_iff, List.any_eq_true]
  simp only [List.mem_reverse, bne_iff_ne, ne_eq, beq_iff_eq, not_forall, not_not, exists_prop]
  exact exists_congr fun m => and_congr_right fun _ => eq_comm

/-- Where only the last of several members is kept, a name is looked up from the end. -/
theorem lookup_keepLast (members : List (String × Value)) :
    (keepLast members).lookup key = members.reverse.lookup key := by
  induction members with
  | nil => rfl
  | cons m rest ih =>
    obtain ⟨name, v⟩ := m
    rw [keepLast, List.reverse_cons, List.lookup_append]
    by_cases same : key = name
    · subst same
      have later := isSome_lookup_reverse key rest
      cases found : rest.reverse.lookup key with
      | some entry =>
        rw [found, Option.isSome_some] at later
        rw [if_pos later.symm, ih, found, Option.some_or]
      | none =>
        rw [found, Option.isSome_none] at later
        rw [if_neg (by rw [← later]; exact Bool.false_ne_true), List.lookup_cons_self, List.lookup_cons_self,
          Option.none_or]
    · have apart (others : List (String × Value)) : List.lookup key ((name, v) :: others) = others.lookup key := by
        rw [List.lookup_cons, beq_eq_false_iff_ne.2 same]
      rw [apart, List.lookup_nil, Option.or_none, ← ih]
      split
      · rfl
      · exact apart _

theorem lookup_keepLast_eq_some_iff {entry : Value} :
    (keepLast members).lookup key = some entry ↔
      ∃ before after, members = before ++ (key, entry) :: after ∧ key ∉ after.map Prod.fst := by
  rw [lookup_keepLast, List.lookup_eq_some_iff]
  constructor
  · rintro ⟨after, before, reversed, none⟩
    refine ⟨before.reverse, after.reverse, ?_, ?_⟩
    · rw [← List.reverse_reverse members, reversed]
      simp
    · rw [List.map_reverse, List.mem_reverse, List.mem_map]
      rintro ⟨m, mem, rfl⟩
      simpa using none m mem
  · rintro ⟨before, after, rfl, last⟩
    refine ⟨after.reverse, before.reverse, by simp, fun m mem => bne_iff_ne.2 ?_⟩
    rintro rfl
    exact last (List.mem_map_of_mem (List.mem_reverse.1 mem))

theorem lookup_keepLast_eq_none_iff : (keepLast members).lookup key = none ↔ key ∉ members.map Prod.fst := by
  rw [lookup_keepLast, List.lookup_eq_none_iff]
  simp only [List.mem_reverse, bne_iff_ne, List.mem_map, not_exists, not_and]
  exact forall₂_congr fun m _ => ne_comm

theorem menuEntry?_eq (s key : String) :
    menuEntry? key s = (Value.ofText? s).bind fun v =>
      match v with
      | .object members => some ((keepLast members).lookup key)
      | _ => none := by
  unfold menuEntry?
  rw [Value.ofText?, Option.bind_assoc]
  rfl

theorem menuEntry?_of_object (read : Value.ofText? s = some (.object members)) :
    menuEntry? key s = some ((keepLast members).lookup key) := by
  rw [menuEntry?_eq, read]
  rfl

/-- The entry that is found is the one that the menu has. -/
theorem menuEntry?_eq_some_iff {entry : Value} : menuEntry? key s = some (some entry) ↔ HasEntry s key entry := by
  rw [menuEntry?_eq, HasEntry]
  cases Value.ofText? s with
  | none => simp
  | some v =>
    cases v with
    | object members => simp [lookup_keepLast_eq_some_iff]
    | _ => simp

theorem join_menuPayload?_eq (s key : String) :
    (menuPayload? key s).join =
      (Option.join <| menuEntry? key s).bind fun entry => Payload.ofValue? entry.distinct := by
  rw [menuPayload?]
  rcases menuEntry? key s with _ | _ | entry
  · rfl
  · rfl
  · simp only [Option.bind_eq_bind, Option.bind_some, Option.join_some]
    cases Payload.ofValue? entry.distinct <;> rfl

/-- The payload that is found for a button is the one that the menu holds for it. -/
theorem join_menuPayload?_eq_some_iff {p : Payload} : (menuPayload? key s).join = some p ↔ Holds s key p := by
  rw [join_menuPayload?_eq, Option.bind_eq_some_iff]
  simp only [Option.join_eq_some_iff, menuEntry?_eq_some_iff]
  rfl

/-- A text that is skipped gives the button nothing. -/
theorem Skips.join_menuPayload?_eq (skips : Skips key s) : (menuPayload? key s).join = none := by
  rw [Menu.join_menuPayload?_eq]
  cases skips with
  | empty => rfl
  | notJson none => rw [menuEntry?_eq, none]; rfl
  | @notObject _ v read other =>
    rw [menuEntry?_eq, read]
    cases v with
    | object members => exact (other members rfl).elim
    | _ => rfl
  | noEntry read none =>
    rw [menuEntry?_of_object read, lookup_keepLast_eq_none_iff.2 none]
    rfl
  | malformed has malformed =>
    rw [menuEntry?_eq_some_iff.2 has]
    exact malformed

/-- Nothing is found for a button in texts that are skipped for one of the reasons, and in no others. -/
theorem skips_iff : Skips key s ↔ (menuPayload? key s).join = none := by
  refine ⟨Skips.join_menuPayload?_eq, fun nothing => ?_⟩
  cases read : Value.ofText? s with
  | none => exact .notJson read
  | some v =>
    cases v with
    | object members =>
      cases found : (keepLast members).lookup key with
      | none => exact .noEntry read (lookup_keepLast_eq_none_iff.1 found)
      | some entry =>
        have there : menuEntry? key s = some (some entry) := by rw [menuEntry?_of_object read, found]
        rw [Menu.join_menuPayload?_eq, there] at nothing
        exact .malformed (menuEntry?_eq_some_iff.1 there) nothing
    | _ => exact .notObject read fun members => by simp

/-- Reads a member inside an object. -/
def readMember? (depth : Nat) (m : Bytes × Document) : Option (String × Value) := do
  return (← Json.Quoted.decode m.1, ← m.2.value? depth)

/-- One member that can be read leaves it to those around it whether an object can. -/
theorem value?_object (depth : Nat) {name : Bytes} {d : Document} {other : String} {v : Value}
    (named : Json.Quoted.decode name = some other) (read : d.value? depth = some v)
    (before after : List (Bytes × Document)) :
    Document.value? (depth + 1) (.object (before ++ (name, d) :: after)) = do
      let front ← before.mapM (readMember? depth)
      let back ← after.mapM (readMember? depth)
      return .object (front ++ (other, v) :: back) := by
  have member : readMember? depth (name, d) = some (other, v) := by simp [readMember?, named, read]
  have each : Document.value? (depth + 1) (.object (before ++ (name, d) :: after)) =
      ((before ++ (name, d) :: after).mapM (readMember? depth)).map .object := rfl
  rw [each, List.mapM_append, List.mapM_cons, member]
  cases before.mapM (readMember? depth) <;> cases after.mapM (readMember? depth) <;> rfl

theorem lookup_keepLast_of_ne {other : String} (apart : other ≠ key) (front back : List (String × Value)) (v : Value) :
    (keepLast (front ++ (other, v) :: back)).lookup key = (keepLast (front ++ back)).lookup key := by
  have single : List.lookup key [(other, v)] = none := by simp [List.lookup_cons, beq_eq_false_iff_ne.2 apart.symm]
  simp only [lookup_keepLast, List.reverse_append, List.reverse_cons, List.append_assoc, List.lookup_append, single,
    Option.none_or]

/-- What a menu says of a button does not depend on an entry of another button. -/
theorem menuEntry?_of_member {name : Bytes} {d : Document} {other : String} {before after : List (Bytes × Document)}
    (written : Document.ofString? s = some (.object (before ++ (name, d) :: after)))
    (named : Json.Quoted.decode name = some other) (apart : other ≠ key)
    (readable : (d.value? (Json.depthLimit - 1)).isSome = true) :
    menuEntry? key s = do
      let front ← before.mapM (readMember? (Json.depthLimit - 1))
      let back ← after.mapM (readMember? (Json.depthLimit - 1))
      return (keepLast (front ++ back)).lookup key := by
  obtain ⟨v, read⟩ := Option.isSome_iff_exists.1 readable
  have whole : Value.ofText? s =
      Document.value? (Json.depthLimit - 1 + 1) (.object (before ++ (name, d) :: after)) := by
    rw [Value.ofText?, written]
    rfl
  rw [menuEntry?_eq, whole, value?_object _ named read]
  cases before.mapM (readMember? (Json.depthLimit - 1)) <;> cases after.mapM (readMember? (Json.depthLimit - 1))
  · rfl
  · rfl
  · rfl
  · exact congrArg some (lookup_keepLast_of_ne apart ..)

/-- No entry of another button matters. -/
theorem Replaces.menuPayload?_eq (replaces : Replaces key s s') : menuPayload? key s = menuPayload? key s' := by
  obtain ⟨written, written', named, apart, readable, readable'⟩ := replaces
  rw [menuPayload?, menuPayload?, menuEntry?_of_member written named apart readable,
    menuEntry?_of_member written' named apart readable']

end Menu
end ReplyGateway
