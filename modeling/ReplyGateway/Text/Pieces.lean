namespace ReplyGateway

/-- The pieces between separators, one more than there are separators. -/
def pieces (isSeparator : Char → Bool) (cs : List Char) : List (List Char) :=
  cs.foldr (fun c found => match found with
    | piece :: rest => if isSeparator c then [] :: piece :: rest else (c :: piece) :: rest
    | [] => []) [[]]

/-- The pieces between blanks of ASCII. -/
def words (cs : List Char) : List (List Char) := (pieces Char.isWhitespace cs).filter fun piece => !piece.isEmpty

theorem pieces_ne_nil (isSeparator : Char → Bool) (cs : List Char) : pieces isSeparator cs ≠ [] := by
  induction cs with
  | nil => simp [pieces]
  | cons c cs ih =>
    rw [pieces, List.foldr_cons, ← pieces]
    split
    · split <;> simp
    · exact absurd ‹_› ih

theorem pieces_cons {isSeparator : Char → Bool} {c : Char} {cs piece : List Char} {rest : List (List Char)}
    (h : pieces isSeparator cs = piece :: rest) :
    pieces isSeparator (c :: cs) = if isSeparator c then [] :: piece :: rest else (c :: piece) :: rest := by
  rw [pieces, List.foldr_cons, ← pieces, h]

theorem mem_of_mem_pieces {isSeparator : Char → Bool} {cs piece : List Char} {c : Char}
    (h : piece ∈ pieces isSeparator cs) (mem : c ∈ piece) : c ∈ cs := by
  induction cs generalizing piece with
  | nil => simp_all [pieces]
  | cons d cs ih =>
    obtain ⟨first, rest, found⟩ := List.exists_cons_of_ne_nil (pieces_ne_nil isSeparator cs)
    rw [pieces_cons found] at h
    rw [found] at ih
    split at h <;> grind

end ReplyGateway
