import ReplyGateway.Unicode.BidiClass

namespace ReplyGateway

/-- The classes of characters that make a name run from right to left. -/
def BidiClass.turns (c : BidiClass) : Bool := c = .rightToLeft || c = .arabicLetter || c = .arabicNumber

/-- The classes that a label may have whichever way it runs. -/
def BidiClass.isCommon (c : BidiClass) : Bool :=
  [.europeanNumber, .europeanSeparator, .europeanTerminator, .commonSeparator, .nonspacingMark, .boundaryNeutral,
    .otherNeutral].contains c

namespace Domain

/-- Whether a name has characters that are written from right to left. The labels of such a name need a direction that
cannot be mistaken. -/
def runsRightToLeft (cs : List Char) : Bool := cs.any fun c => (BidiClass.of c).turns

/-- Whether the classes after a letter suit a label from left to right, which ends in such a letter or a number.
Marks at its end do not count. -/
def suitsLeftToRight (after : List BidiClass) : Bool :=
  (after.all fun c => c = .leftToRight || c.isCommon) &&
    (after.reverse.dropWhile (· = .nonspacingMark)).head?.all fun c => c = .leftToRight || c = .europeanNumber

/-- Whether the classes after a letter suit a label from right to left, which ends in such a letter or a number
and has numbers of one kind. -/
def suitsRightToLeft (after : List BidiClass) : Bool :=
  (after.all fun c => c.turns || c.isCommon) &&
    ((after.reverse.dropWhile (· = .nonspacingMark)).head?.all fun c => c.turns || c = .europeanNumber) &&
    !(after.contains .europeanNumber && after.contains .arabicNumber)

/-- Whether the direction of a label cannot be mistaken: it starts with a letter and suits its direction. -/
def hasDirection (label : List Char) : Bool :=
  match label.map BidiClass.of with
  | [] => true
  | .leftToRight :: after => suitsLeftToRight after
  | .rightToLeft :: after | .arabicLetter :: after => suitsRightToLeft after
  | _ => false

/-- Characters from right to left are in a text if and only if they are in one of its two parts. -/
theorem runsRightToLeft_append (cs ds : List Char) :
    runsRightToLeft (cs ++ ds) = (runsRightToLeft cs || runsRightToLeft ds) := by
  simp [runsRightToLeft]

end Domain
end ReplyGateway
