import ReplyGateway.Unicode.CombiningClass
import ReplyGateway.Unicode.Composite

namespace ReplyGateway

/-- The codes that a code stands for, by composites of which each stands before that of its first character. -/
def decomposedBy (code : Nat) : List Composite → List Nat
  | [] => [code]
  | c :: rest => if c.whole = code then decomposedBy c.first rest ++ [c.second] else decomposedBy code rest

/-- The codes that a code stands for. -/
def decomposed (code : Nat) : List Nat :=
  match hangulParts? code with
  | some (first, second) =>
    match hangulParts? first with
    | some (lead, vowel) => [lead, vowel, second]
    | none => [first, second]
  | none => decomposedBy code Composite.all

/-- Puts a character in front of others, but behind the marks in front that are of a lower class. -/
def insertOrdered (c : Char) : List Char → List Char
  | [] => [c]
  | d :: rest =>
    if 0 < combiningClass d ∧ combiningClass d < combiningClass c then d :: insertOrdered c rest else c :: d :: rest

/-- Puts the marks between two other characters in the order of their classes. -/
def ordered (cs : List Char) : List Char := cs.foldr insertOrdered []

theorem perm_insertOrdered (c : Char) (cs : List Char) : (insertOrdered c cs).Perm (c :: cs) := by
  induction cs with
  | nil => exact .refl _
  | cons d rest ih =>
    unfold insertOrdered
    split
    · exact (ih.cons d).trans (.swap c d rest)
    · exact .refl _

/-- Putting marks in order loses no character and adds none. -/
theorem perm_ordered (cs : List Char) : (ordered cs).Perm cs := by
  induction cs with
  | nil => exact .refl _
  | cons c cs ih => exact (perm_insertOrdered c _).trans (ih.cons c)

/-- Composes what follows a character that starts anew. `marks` are those after it that did not compose, the
last first. A character is composed with it unless such a mark of the same class or a higher one is between. -/
def composeAfter (starter : Char) (marks : List Char) : List Char → List Char
  | [] => starter :: marks.reverse
  | c :: rest =>
    let whole? := if marks.head?.any fun d => combiningClass c ≤ combiningClass d then none
      else composed? starter.toNat c.toNat
    match whole? with
    | some whole => composeAfter (Char.ofNat whole) marks rest
    | none =>
      if combiningClass c = 0 then starter :: (marks.reverse ++ composeAfter c [] rest)
      else composeAfter starter (c :: marks) rest

def compose : List Char → List Char
  | [] => []
  | c :: rest => if combiningClass c = 0 then composeAfter c [] rest else c :: compose rest

/-- The composed normal form: characters are taken apart, marks are put in order, and what can be composed is
composed. -/
def normalized (cs : List Char) : List Char :=
  compose (ordered (cs.flatMap fun c => (decomposed c.toNat).map Char.ofNat))

end ReplyGateway
