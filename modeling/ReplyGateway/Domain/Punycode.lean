namespace ReplyGateway.Domain.Punycode

/-- The value of a digit in base 36: letters of either case, then decimal digits. -/
def digit? (c : Char) : Option Nat :=
  if c.isLower then some (c.toNat - 97)
  else if c.isUpper then some (c.toNat - 65)
  else if c.isDigit then some (c.toNat - 22)
  else none

/-- Numbers from here on are not used. -/
def limit : Nat := 0x100000000

/-- A digit at some place of a number ends it if it is below this. Places count 36 each. -/
def threshold (bias place : Nat) : Nat := max 1 (min 26 (place - bias))

/-- Reads a number, which is added to `total`, from its digit at some place on. -/
def number? (bias place weight total : Nat) : List Char → Option (Nat × List Char)
  | [] => none
  | c :: rest => do
    let d ← digit? c
    let total := total + d * weight
    if limit ≤ total then none
    else if d < threshold bias place then some (total, rest)
    else
      let weight := weight * (36 - threshold bias place)
      if limit ≤ weight then none else number? bias (place + 36) weight total rest

/-- A number takes up at least one digit. -/
theorem length_lt_of_number? {bias place weight total : Nat} {cs : List Char} {found : Nat × List Char}
    (h : number? bias place weight total cs = some found) : found.2.length < cs.length := by
  induction cs generalizing place weight total with
  | nil => cases h
  | cons c rest ih =>
    rw [number?] at h
    cases hd : digit? c with
    | none => simp [hd] at h
    | some d =>
      simp only [hd, Option.bind_eq_bind, Option.bind_some] at h
      split at h
      · cases h
      · split at h
        · cases h; simp
        · split at h
          · cases h
          · have := ih h
            simp only [List.length_cons]
            omega

/-- How often 35 goes into a number until it is at most 455, and what is left. -/
def scaled (n : Nat) : Nat × Nat :=
  if 455 < n then
    let (times, rest) := scaled (n / 35)
    (times + 1, rest)
  else (0, n)
termination_by n
decreasing_by exact Nat.div_lt_self (by omega) (by omega)

/-- The bias after a number, which put in one of `count` characters. -/
def bias (isFirst : Bool) (number count : Nat) : Nat :=
  let damped := if isFirst then number / 700 else number / 2
  let (times, rest) := scaled (damped + damped / count)
  36 * times + 36 * rest / (rest + 38)

/-- Puts characters in as the numbers tell. A number counts on from the place after the last character that was
put in, through all places for that character and then for those with greater codes. -/
def insertAll? (done : List Char) (code slant place : Nat) : List Char → Option (List Char)
  | [] => some done
  | c :: cs =>
    match found : number? slant 36 1 place (c :: cs) with
    | none => none
    | some (total, rest) =>
      let count := done.length + 1
      let next := code + total / count
      if next.isValidChar then
        insertAll? (done.insertIdx (total % count) (Char.ofNat next)) next (bias (place = 0) (total - place) count)
          (total % count + 1) rest
      else none
termination_by cs => cs.length
decreasing_by exact length_lt_of_number? found

/-- Cuts at the last hyphen, which stands in neither part. A hyphen in front does not divide. -/
def parts (cs : List Char) : List Char × List Char :=
  let (last, before) := cs.reverse.span (· ≠ '-')
  if before.length ≤ 1 then ([], cs) else (before.tail.reverse, last.reverse)

/-- Reads a label in Punycode: the characters of ASCII first, then where which others are to be put in, as numbers of
variable length. -/
def decode? (cs : List Char) : Option (List Char) :=
  let (plain, numbers) := parts cs
  insertAll? plain 128 72 0 numbers

end ReplyGateway.Domain.Punycode
