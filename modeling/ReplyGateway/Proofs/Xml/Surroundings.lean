import Mathlib
import ReplyGateway.Proofs.Xml.Text
import ReplyGateway.Xml.Fields

namespace ReplyGateway.Xml

namespace Markup

theorem length_lt_of_cut {mark done cs before rest : List Char} (marked : mark ≠ [])
    (found : cut mark done cs = some (before, rest)) : rest.length < cs.length := by
  induction cs generalizing done with
  | nil => cases found
  | cons c cs ih =>
    rw [cut] at found
    split at found
    · obtain ⟨-, rfl⟩ := Prod.mk.inj (Option.some.inj found)
      have some := List.length_pos_iff.2 marked
      rw [List.length_drop, List.length_cons]
      omega
    · exact (ih found).trans (Nat.lt_succ_self _)

theorem length_lt_of_cutTag {quote : Option Char} {done cs before rest : List Char}
    (found : cutTag quote done cs = some (before, rest)) : rest.length < cs.length := by
  induction cs generalizing quote done with
  | nil => cases found
  | cons c cs ih =>
    cases quote with
    | some q => exact (ih found).trans (Nat.lt_succ_self _)
    | none =>
      rw [cutTag] at found
      split at found
      · obtain ⟨-, rfl⟩ := Prod.mk.inj (Option.some.inj found)
        exact Nat.lt_succ_self _
      · exact (ih found).trans (Nat.lt_succ_self _)

theorem length_lt_of_cutDoctype {opened : Nat} {done cs before rest : List Char}
    (found : cutDoctype opened done cs = some (before, rest)) : rest.length < cs.length := by
  fun_induction cutDoctype opened done cs with
  | case1 => cases found
  | case2 _ _ _ ih => exact (ih found).trans (Nat.lt_succ_self _)
  | case3 =>
    obtain ⟨-, rfl⟩ := Prod.mk.inj (Option.some.inj found)
    exact Nat.lt_succ_self _
  | case4 _ _ _ _ ih => exact (ih found).trans (Nat.lt_succ_self _)
  | case5 _ _ _ _ _ _ ih => exact (ih found).trans (Nat.lt_succ_self _)

theorem length_lt_of_map {α : Type} {found? : Option (α × List Char)} {make : α × List Char → Markup × List Char}
    {piece : Markup} {rest : List Char} (found : found?.map make = some (piece, rest)) (keeps : ∀ p, (make p).2 = p.2)
    {n : Nat} (shorter : ∀ before rest, found? = some (before, rest) → rest.length < n) : rest.length < n := by
  obtain ⟨⟨before, rest'⟩, here, same⟩ := Option.map_eq_some_iff.1 found
  have kept := keeps (before, rest')
  rw [same] at kept
  obtain rfl : rest = rest' := kept
  exact shorter before rest here

/-- Every piece takes at least one character. -/
theorem length_lt_of_next {cs rest : List Char} {piece : Markup} (nonempty : cs ≠ [])
    (found : next cs = some (piece, rest)) : rest.length < cs.length := by
  revert found
  fun_cases next cs with
  | case1 =>
    intro found
    have shorter := length_lt_of_map found (fun _ => rfl) fun _ _ => length_lt_of_cutTag
    exact Nat.lt_add_right 2 shorter
  | case3 =>
    intro found
    have shorter := length_lt_of_map found (fun _ => rfl) fun _ _ => length_lt_of_cut (List.cons_ne_nil _ _)
    exact Nat.lt_add_right 2 shorter
  | case4 =>
    intro found
    have shorter := length_lt_of_map found (fun _ => rfl) fun _ _ => length_lt_of_cut (List.cons_ne_nil _ _)
    exact Nat.lt_add_right 4 shorter
  | case5 =>
    intro found
    have shorter := length_lt_of_map found (fun _ => rfl) fun _ _ => length_lt_of_cut (List.cons_ne_nil _ _)
    exact Nat.lt_add_right 9 shorter
  | case7 cs _ _ _ content _ found =>
    rintro ⟨⟩
    have shorter := length_lt_of_cutDoctype found
    rw [List.length_drop] at shorter
    simp only [List.length_cons]
    omega
  | case10 =>
    intro found
    have shorter := length_lt_of_map found (fun _ => rfl) fun _ _ => length_lt_of_cutTag
    exact Nat.lt_add_right 1 shorter
  | case11 _ _ _ _ _ _ plain _ _ split =>
    rintro ⟨⟩
    obtain ⟨c, more, rfl⟩ := List.exists_cons_of_ne_nil nonempty
    have first : c ≠ '<' := fun same => plain more (same ▸ rfl)
    rw [List.span_eq_takeWhile_dropWhile, List.dropWhile_cons_of_pos (by simpa using first)] at split
    rw [← (Prod.mk.inj split).2]
    exact Nat.lt_succ_of_le (List.length_dropWhile_le _ _)
  | _ => rintro ⟨⟩

end Markup

/-- What is read with any fuel is reached piece by piece. -/
theorem reaches_of_readRoot {fuel : Nat} {stack : List Open} {cs : List Char} {root : Node}
    (read : readRoot fuel stack cs = some root) : Reaches stack cs root := by
  induction fuel generalizing stack cs with
  | zero => cases read
  | succ fuel ih =>
    cases cs with
    | nil => cases read
    | cons c cs =>
      rw [readRoot] at read
      · split at read
        · cases read
        · rename_i piece rest found
          have shorter := Markup.length_lt_of_next (List.cons_ne_nil c cs) found
          split at read
          · cases read
          · rename_i complete
            exact .last found shorter (Option.some.inj read ▸ complete)
          · rename_i inside
            exact .next found shorter inside (ih read)
      · simp

/-- From the open elements on, characters lead to others, with some characters left. -/
inductive Leads : List Open → List Char → List Open → List Char → Prop
  | here {stack : List Open} {cs : List Char} : Leads stack cs stack cs
  | next {stack stack' last : List Open} {cs rest left : List Char} {piece : Markup} :
      Markup.next cs = some (piece, rest) → rest.length < cs.length →
      Progress.take stack piece = some (.inside stack') → Leads stack' rest last left → Leads stack cs last left

/-- What comes next decides how the reading ends. -/
theorem Leads.reaches_iff {stack stack' : List Open} {cs left : List Char} {root : Node}
    (leads : Leads stack cs stack' left) : Reaches stack cs root ↔ Reaches stack' left root := by
  induction leads with
  | here => rfl
  | next found shorter inside _ ih =>
    rw [← ih]
    refine ⟨fun reaches => ?_, .next found shorter inside⟩
    cases reaches with
    | last found' _ complete =>
      obtain ⟨rfl, rfl⟩ := Prod.mk.inj (Option.some.inj (found.symm.trans found'))
      cases inside.symm.trans complete
    | next found' _ inside' reaches =>
      obtain ⟨rfl, rfl⟩ := Prod.mk.inj (Option.some.inj (found.symm.trans found'))
      obtain rfl := Progress.inside.inj (Option.some.inj (inside.symm.trans inside'))
      exact reaches

/-- One list has `t'` at a place where the other one has `t`, and they are the same everywhere else. -/
def Swaps {α : Type} (t t' : α) (ts ts' : List α) : Prop :=
  ∃ front back, ts = front ++ t :: back ∧ ts' = front ++ t' :: back

section Swaps

variable {α : Type} {t t' : α} {ts ts' : List α}

theorem Swaps.cons (swaps : Swaps t t' ts ts') (u : α) : Swaps t t' (u :: ts) (u :: ts') := by
  obtain ⟨front, back, rfl, rfl⟩ := swaps
  exact ⟨u :: front, back, rfl, rfl⟩

theorem Swaps.reverse (swaps : Swaps t t' ts ts') : Swaps t t' ts.reverse ts'.reverse := by
  obtain ⟨front, back, rfl, rfl⟩ := swaps
  exact ⟨back.reverse, front.reverse, by simp, by simp⟩

end Swaps

/-- Two open elements differ in one child. -/
structure Open.Swaps (t t' : Node) (o o' : Open) : Prop where
  name : o.name = o'.name
  attributes : o.attributes = o'.attributes
  run : o.run = o'.run
  children : Xml.Swaps t t' o.children o'.children

namespace Open.Swaps

variable {t t' : Node} {o o' : Open}

theorem endRun (swaps : Open.Swaps t t' o o') : Open.Swaps t t' o.endRun o'.endRun where
  name := swaps.name
  attributes := swaps.attributes
  run := rfl
  children := by
    rw [Open.endRun, Open.endRun, ← swaps.run]
    dsimp only
    split
    · exact swaps.children
    · exact swaps.children.cons _

theorem addChild (swaps : Open.Swaps t t' o o') (child : Node) :
    Open.Swaps t t' (o.addChild child) (o'.addChild child) :=
  ⟨swaps.name, swaps.attributes, rfl, swaps.endRun.children.cons child⟩

theorem addPiece (swaps : Open.Swaps t t' o o') (piece : Piece) :
    Open.Swaps t t' (o.addPiece piece) (o'.addPiece piece) :=
  ⟨swaps.name, swaps.attributes, by rw [Open.addPiece, Open.addPiece, swaps.run], swaps.children⟩

end Open.Swaps

/-- The outermost of the open elements differs in one child. -/
inductive StackSwaps (t t' : Node) : List Open → List Open → Prop
  | outermost {o o' : Open} : o.Swaps t t' o' → StackSwaps t t' [o] [o']
  | inner {o : Open} {stack stack' : List Open} : StackSwaps t t' stack stack' →
      StackSwaps t t' (o :: stack) (o :: stack')

/-- Two elements differ in one child. -/
inductive Node.Swaps (t t' : Node) : Node → Node → Prop
  | element {name attributes : List Char} {children children' : List Node} : Xml.Swaps t t' children children' →
      Node.Swaps t t' (.element name attributes children) (.element name attributes children')

/-- What has been read so far differs in one child of the outermost element. -/
inductive Progress.Swaps (t t' : Node) : Progress → Progress → Prop
  | inside {stack stack' : List Open} : StackSwaps t t' stack stack' → Swaps t t' (.inside stack) (.inside stack')
  | complete {root root' : Node} : Node.Swaps t t' root root' → Swaps t t' (.complete root) (.complete root')

section Stack

variable {t t' : Node} {stack stack' : List Open}

/-- What is done to the innermost open element keeps the difference. -/
theorem StackSwaps.modify {f : Open → Open}
    (keeps : ∀ o o' : Open, o.Swaps t t' o' → (f o).Swaps t t' (f o')) {o o' : Open} {rest rest' : List Open}
    (swaps : StackSwaps t t' (o :: rest) (o' :: rest')) : StackSwaps t t' (f o :: rest) (f o' :: rest') := by
  cases swaps with
  | outermost swaps => exact .outermost (keeps _ _ swaps)
  | inner swaps => exact .inner swaps

theorem StackSwaps.exists_cons (swaps : StackSwaps t t' stack stack') :
    ∃ o rest o' rest', stack = o :: rest ∧ stack' = o' :: rest' := by
  cases swaps with
  | outermost => exact ⟨_, _, _, _, rfl, rfl⟩
  | inner => exact ⟨_, _, _, _, rfl, rfl⟩

theorem StackSwaps.close (swaps : StackSwaps t t' stack stack') (child : Node) :
    Progress.Swaps t t' (Progress.close child stack) (Progress.close child stack') := by
  obtain ⟨o, rest, o', rest', rfl, rfl⟩ := swaps.exists_cons
  exact .inside (swaps.modify fun _ _ swaps => swaps.addChild child)

theorem Open.Swaps.close {o o' : Open} (swaps : o.Swaps t t' o') : Node.Swaps t t' o.close o'.close := by
  rw [Open.close, Open.close, swaps.name, swaps.attributes]
  exact .element swaps.endRun.children.reverse

/-- One piece keeps the difference. -/
theorem StackSwaps.take (swaps : StackSwaps t t' stack stack') {piece : Markup} {p : Progress}
    (taken : Progress.take stack piece = some p) :
    ∃ p', Progress.take stack' piece = some p' ∧ Progress.Swaps t t' p p' := by
  cases piece with
  | aside =>
    obtain rfl := Option.some.inj taken
    exact ⟨_, rfl, .inside swaps⟩
  | opening name attributes closed =>
    cases closed with
    | true =>
      obtain rfl := Option.some.inj taken
      exact ⟨_, rfl, swaps.close _⟩
    | false =>
      obtain rfl := Option.some.inj taken
      exact ⟨_, rfl, .inside (.inner swaps)⟩
  | doctype =>
    obtain ⟨o, rest, o', rest', rfl, rfl⟩ := swaps.exists_cons
    obtain rfl := Option.some.inj taken
    exact ⟨_, rfl, .inside (swaps.modify fun _ _ swaps => swaps.addChild .doctype)⟩
  | text raw =>
    obtain ⟨o, rest, o', rest', rfl, rfl⟩ := swaps.exists_cons
    obtain rfl := Option.some.inj taken
    exact ⟨_, rfl, .inside (swaps.modify fun _ _ swaps => swaps.addPiece (.text raw))⟩
  | verbatim raw =>
    obtain ⟨o, rest, o', rest', rfl, rfl⟩ := swaps.exists_cons
    obtain rfl := Option.some.inj taken
    exact ⟨_, rfl, .inside (swaps.modify fun _ _ swaps => swaps.addPiece (.verbatim raw))⟩
  | closing name =>
    cases swaps with
    | outermost swaps =>
      obtain ⟨named, rfl⟩ := Option.ite_none_right_eq_some.1 taken |>.imp_right Option.some.inj
      exact ⟨_, if_pos (swaps.name.symm.trans named), .complete swaps.close⟩
    | inner swaps =>
      obtain ⟨named, rfl⟩ := Option.ite_none_right_eq_some.1 taken |>.imp_right Option.some.inj
      exact ⟨_, if_pos named, swaps.close _⟩

/-- By induction on the pieces: what follows is read as the same, and the roots differ in one child. -/
theorem Reaches.swaps {cs : List Char} {root : Node} (reaches : Reaches stack cs root)
    (swaps : StackSwaps t t' stack stack') : ∃ root', Reaches stack' cs root' ∧ Node.Swaps t t' root root' := by
  induction reaches generalizing stack' with
  | last found shorter complete =>
    obtain ⟨p', taken, after⟩ := swaps.take complete
    cases after with
    | complete same => exact ⟨_, .last found shorter taken, same⟩
  | next found shorter inside _ ih =>
    obtain ⟨p', taken, after⟩ := swaps.take inside
    cases after with
    | inside swaps =>
      obtain ⟨root', reaches, same⟩ := ih swaps
      exact ⟨root', .next found shorter taken reaches, same⟩

end Stack

/-- The text after a byte order mark, if there is one. -/
def withoutMark (text : List Char) : List Char := if text.head? = some '\ufeff' then text.tail else text

/-- There is always enough fuel. -/
theorem rootOf?_eq_some_iff {text : List Char} {root : Node} :
    rootOf? text = some root ↔ Reaches [] (withoutMark text) root :=
  ⟨reaches_of_readRoot, fun reaches => reaches.readRoot_eq (Nat.le_refl _)⟩

/-- Whatever tag comes after characters, the outermost element is open then, and nothing inside of it. -/
def Opens (before : List Char) (o : Open) : Prop :=
  ∀ rest, Leads [] (withoutMark (before ++ '<' :: rest)) [o] ('<' :: rest)

theorem WritesElement.exists_eq {name attributes content written : List Char}
    (element : WritesElement name attributes content written) : ∃ rest, written = '<' :: rest := by
  cases element <;> exact ⟨_, rfl⟩

/-- What stands around an element inside the outermost one is read as the same, whatever the element holds. -/
theorem rootOf?_of_opens {before after name attributes content written : List Char} {o : Open} {nodes : List Node}
    {root : Node} (opens : Opens before o) (plain : IsPlain name) (tail : IsTail attributes)
    (element : WritesElement name attributes content written) (writes : Writes content nodes)
    (read : rootOf? (before ++ '<' :: (name ++ (attributes ++ ['/', '>'])) ++ after) = some root) :
    ∃ root', rootOf? (before ++ written ++ after) = some root' ∧
      Node.Swaps (.element name attributes []) (.element name attributes nodes) root root' := by
  rw [rootOf?_eq_some_iff, List.append_assoc, List.cons_append, (opens _).reaches_iff] at read
  have found := Markup.next_closedTag plain tail after
  simp only [List.append_assoc, List.cons_append, List.nil_append] at read
  have hollow : Leads [o] ('<' :: (name ++ (attributes ++ '/' :: '>' :: after)))
      [o.addChild (.element name attributes [])] after :=
    .next found (Markup.length_lt_of_next (List.cons_ne_nil _ _) found) rfl .here
  rw [hollow.reaches_iff] at read
  have swaps : StackSwaps (.element name attributes []) (.element name attributes nodes)
      [o.addChild (.element name attributes [])] [o.addChild (.element name attributes nodes)] :=
    .outermost ⟨rfl, rfl, rfl, [], _, rfl, rfl⟩
  obtain ⟨root', reaches, same⟩ := read.swaps swaps
  have full : Reaches [o] (written ++ after) root' :=
    .append_element plain tail element (fun empty => (empty ▸ writes).nodes_eq_nil) writes.reaches reaches
  obtain ⟨rest, rfl⟩ := element.exists_eq
  refine ⟨root', rootOf?_eq_some_iff.2 ?_, same⟩
  rw [List.append_assoc, List.cons_append, (opens _).reaches_iff]
  exact full

section Record

variable {names : List String} {name attributes : List Char} {nodes nodes' children children' : List Node} {i : Nat}

/-- Puts one child into the field of its name. -/
def fillField? (names : List String) (fields : List (Option Node)) : Node → Option (List (Option Node))
  | .doctype => some fields
  | .run pieces => if isReadableRun pieces then some fields else none
  | .element name attributes children =>
    if !bindsLawfully attributes then none
    else
      match names.findIdx? (·.toList == localName name) with
      | none => if (passOver children).isSome then some fields else none
      | some i =>
        if (fields.getD i none).isSome then none else some (fields.set i (some (.element name attributes children)))

theorem fillFields_cons (fields : List (Option Node)) (child : Node) (rest : List Node) :
    fillFields names fields (child :: rest) = (fillField? names fields child).bind (fillFields names · rest) := by
  cases child with
  | doctype => rw [fillFields]; rfl
  | run pieces =>
    rw [fillFields, fillField?]
    split <;> rfl
  | element name attributes children =>
    rw [fillFields, fillField?]
    split
    · rfl
    · cases names.findIdx? (·.toList == localName name) with
      | none => dsimp only; split <;> rfl
      | some i => dsimp only; split <;> rfl

variable {fields fields' out : List (Option Node)} {child t : Node}

theorem length_of_fillField? (filled : fillField? names fields child = some fields') :
    fields'.length = fields.length := by
  revert filled
  fun_cases fillField? names fields child with
  | case1 | case2 | case5 => rintro ⟨⟩; rfl
  | case8 => rintro ⟨⟩; exact List.length_set
  | _ => rintro ⟨⟩

theorem getD_set_of_ne {α : Type} {as : List α} {i j : Nat} (other : i ≠ j) (a d : α) :
    (as.set i a).getD j d = as.getD j d := by
  rw [List.getD_eq_getElem?_getD, List.getD_eq_getElem?_getD, List.getElem?_set_ne other]

/-- A field that is filled is not looked at again. -/
theorem fillField?_set (taken : (fields.getD i none).isSome = true)
    (filled : fillField? names fields child = some fields') :
    fillField? names (fields.set i (some t)) child = some (fields'.set i (some t)) ∧ fields'[i]? = fields[i]? := by
  cases child with
  | doctype => obtain rfl := Option.some.inj filled; exact ⟨rfl, rfl⟩
  | run pieces =>
    rw [fillField?] at filled ⊢
    obtain ⟨readable, filled⟩ := Option.ite_none_right_eq_some.1 filled
    obtain rfl := Option.some.inj filled
    exact ⟨if_pos readable, rfl⟩
  | element name attributes inner =>
    rw [fillField?] at filled ⊢
    obtain ⟨lawful, filled⟩ := Option.ite_none_left_eq_some.1 filled
    rw [if_neg lawful]
    cases position : names.findIdx? (·.toList == localName name) with
    | none =>
      rw [position] at filled
      obtain ⟨passes, filled⟩ := Option.ite_none_right_eq_some.1 filled
      obtain rfl := Option.some.inj filled
      exact ⟨if_pos passes, rfl⟩
    | some j =>
      rw [position] at filled
      obtain ⟨free, filled⟩ := Option.ite_none_left_eq_some.1 filled
      obtain rfl := Option.some.inj filled
      have other : i ≠ j := fun same => free (same ▸ taken)
      dsimp only
      rw [getD_set_of_ne other, if_neg free, List.set_comm _ _ other]
      exact ⟨rfl, List.getElem?_set_ne other.symm⟩

theorem length_of_fillFields (filled : fillFields names fields children = some out) : out.length = fields.length := by
  induction children generalizing fields with
  | nil =>
    rw [fillFields] at filled
    rw [Option.some.inj filled]
  | cons child rest ih =>
    rw [fillFields_cons] at filled
    obtain ⟨fields', first, filled⟩ := Option.bind_eq_some_iff.1 filled
    rw [ih filled, length_of_fillField? first]

/-- What a filled field holds makes no difference to what is put into the others. -/
theorem fillFields_set (room : i < fields.length) (taken : (fields.getD i none).isSome = true)
    (filled : fillFields names fields children = some out) :
    fillFields names (fields.set i (some t)) children = some (out.set i (some t)) ∧ out[i]? = fields[i]? := by
  induction children generalizing fields with
  | nil =>
    rw [fillFields] at filled ⊢
    obtain rfl := Option.some.inj filled
    exact ⟨rfl, rfl⟩
  | cons child rest ih =>
    rw [fillFields_cons] at filled ⊢
    obtain ⟨fields', first, filled⟩ := Option.bind_eq_some_iff.1 filled
    obtain ⟨set, kept⟩ := fillField?_set (t := t) taken first
    have stays : (fields'.getD i none).isSome = true := by
      rwa [List.getD_eq_getElem?_getD, kept, ← List.getD_eq_getElem?_getD]
    obtain ⟨rest, keptRest⟩ := ih (by rwa [length_of_fillField? first]) stays filled
    rw [set, Option.bind_some]
    exact ⟨rest, keptRest.trans kept⟩

/-- What the element of a field holds makes no difference to the other fields. -/
theorem Swaps.fillFields_eq (position : names.findIdx? (·.toList == localName name) = some i)
    (room : i < fields.length)
    (swaps : Swaps (.element name attributes nodes) (.element name attributes nodes') children children')
    (filled : fillFields names fields children = some out) :
    out[i]? = some (some (.element name attributes nodes)) ∧
      fillFields names fields children' = some (out.set i (some (.element name attributes nodes'))) := by
  obtain ⟨front, back, rfl, rfl⟩ := swaps
  induction front generalizing fields with
  | nil =>
    rw [List.nil_append, fillFields, position] at filled ⊢
    obtain ⟨lawful, filled⟩ := Option.ite_none_left_eq_some.1 filled
    obtain ⟨free, filled⟩ := Option.ite_none_left_eq_some.1 filled
    have here (t : Option Node) : (fields.set i t)[i]? = some t := List.getElem?_set_self room
    obtain ⟨set, kept⟩ := fillFields_set (t := .element name attributes nodes') (by rwa [List.length_set])
      (by rw [List.getD_eq_getElem?_getD, here]; rfl) filled
    refine ⟨kept.trans (here _), ?_⟩
    dsimp only
    rw [if_neg lawful, if_neg free, ← set, List.set_set]
  | cons child front ih =>
    rw [List.cons_append, fillFields_cons] at filled ⊢
    obtain ⟨fields', first, filled⟩ := Option.bind_eq_some_iff.1 filled
    rw [first]
    exact ih (by rwa [length_of_fillField? first]) filled

end Record

end ReplyGateway.Xml
