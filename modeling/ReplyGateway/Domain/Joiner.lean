import ReplyGateway.Unicode.CombiningClass
import ReplyGateway.Unicode.JoiningType

namespace ReplyGateway.Domain

/-- The joiner of no width that keeps letters apart. -/
def nonJoiner : Char := '\u200C'

/-- The joiner of no width that joins letters. -/
def joiner : Char := '\u200D'

/-- Whether the nearest character before ends in a virama. -/
def followsVirama (before : List Char) : Bool := before.head?.any fun c => combiningClass c = viramaClass

/-- Whether the nearest letter, behind what is transparent, is of one of two types. -/
def nearestJoins (types : List JoiningType) (cs : List Char) : Bool :=
  ((cs.map JoiningType.of).dropWhile (· = .transparent)).head?.any types.contains

/-- Whether every joiner stands where it shows: behind a virama, and the one that keeps letters apart also where these
would join. `before` holds the characters before, the nearest first. -/
def haveContext (before : List Char) : List Char → Bool
  | [] => true
  | c :: after =>
    (if c = nonJoiner then
      followsVirama before || (nearestJoins [.left, .dual] before && nearestJoins [.right, .dual] after)
    else c ≠ joiner || followsVirama before) && haveContext (c :: before) after

/-- A label without joiners has none out of place. -/
theorem haveContext_of_forall {cs : List Char} (h : ∀ c ∈ cs, c ≠ nonJoiner ∧ c ≠ joiner) (before : List Char) :
    haveContext before cs = true := by
  induction cs generalizing before with
  | nil => rfl
  | cons c cs ih =>
    have here := h c (.head _)
    rw [haveContext, if_neg here.1, ih fun d mem => h d (.tail _ mem)]
    simp [here.2]

end ReplyGateway.Domain
