namespace ReplyGateway

def isLeapYear (year : Int) : Bool := year % 4 = 0 && (year % 100 ≠ 0 || year % 400 = 0)

def daysInMonth (year : Int) (month : Nat) : Nat :=
  match month with
  | 2 => if isLeapYear year then 29 else 28
  | 4 | 6 | 9 | 11 => 30
  | _ => 31

/-- A date that the calendar has. -/
structure Date where
  year : Int
  month : Nat
  day : Nat
  month_bounds : 1 ≤ month ∧ month ≤ 12
  day_bounds : 1 ≤ day ∧ day ≤ daysInMonth year month
  deriving DecidableEq, Repr

theorem one_le_daysInMonth (year : Int) (month : Nat) : 1 ≤ daysInMonth year month := by
  unfold daysInMonth
  split <;> (try split) <;> omega

namespace Date

/-- The date with given numbers, if there is one. -/
def of? (year : Int) (month day : Nat) : Option Date :=
  if h : (1 ≤ month ∧ month ≤ 12) ∧ 1 ≤ day ∧ day ≤ daysInMonth year month then some ⟨year, month, day, h.1, h.2⟩
  else none

def next (d : Date) : Date :=
  if h : d.day + 1 ≤ daysInMonth d.year d.month then ⟨d.year, d.month, d.day + 1, d.month_bounds, by omega, h⟩
  else if h : d.month < 12 then
    ⟨d.year, d.month + 1, 1, by have := d.month_bounds; omega, by omega, one_le_daysInMonth ..⟩
  else ⟨d.year + 1, 1, 1, by omega, by omega, one_le_daysInMonth ..⟩

def previous (d : Date) : Date :=
  if h : 1 < d.day then
    ⟨d.year, d.month, d.day - 1, d.month_bounds, by omega, by have := d.day_bounds; omega⟩
  else if h : 1 < d.month then
    ⟨d.year, d.month - 1, daysInMonth d.year (d.month - 1), by have := d.month_bounds; omega,
      one_le_daysInMonth .., Nat.le_refl _⟩
  else ⟨d.year - 1, 12, 31, by omega, by omega, Nat.le_refl _⟩

end Date

/-- An instant of universal time as a date with a time of day. It can lie in a leap second, which its minute has
beyond the other sixty. -/
structure Instant where
  date : Date
  /-- Seconds since the day began. -/
  second : Nat
  /-- Nanoseconds since the second began; a thousand million and more in the leap second after it. -/
  nanosecond : Nat
  second_lt : second < 86400
  nanosecond_lt : nanosecond < if second % 60 = 59 then 2000000000 else 1000000000
  deriving DecidableEq, Repr

namespace Instant

/-- A fixed number of digits in front. -/
def fixedNumber? : Nat → Nat → List Char → Option (Nat × List Char)
  | 0, n, cs => some (n, cs)
  | count + 1, n, c :: cs => if c.isDigit then fixedNumber? count (n * 10 + (c.toNat - 48)) cs else none
  | _ + 1, _, [] => none

/-- The nanoseconds that the digits of a fraction spell; digits beyond the ninth do not count. -/
def fraction (digits : List Char) : Nat :=
  ((digits ++ List.replicate 9 '0').take 9).foldl (fun n c => n * 10 + (c.toNat - 48)) 0

/-- A fraction after a point, if there is a point. -/
def fraction? : List Char → Option (Nat × List Char)
  | '.' :: cs =>
    let (digits, rest) := cs.span Char.isDigit
    if digits.isEmpty then none else some (fraction digits, rest)
  | cs => some (0, cs)

/-- How many minutes a local time is ahead of universal time, and nothing after it. -/
def offset? (cs : List Char) : Option Int :=
  let minutes (cs : List Char) : Option Int := do
    let (hours, cs) ← fixedNumber? 2 0 cs
    match cs with
    | ':' :: cs =>
      match ← fixedNumber? 2 0 cs with
      | (minutes, []) => if hours ≤ 23 ∧ minutes ≤ 59 then some ((hours * 60 + minutes : Nat) : Int) else none
      | _ => none
    | _ => none
  match cs with
  | ['Z'] | ['z'] => some 0
  | '+' :: cs => minutes cs
  | '-' :: cs | '\u2212' :: cs => (minutes cs).map (-·)
  | _ => none

/-- The instant with given numbers, where second 60 is a leap second. -/
def of? (date : Date) (hour minute second nanosecond : Nat) : Option Instant :=
  let ofDay := (hour * 60 + minute) * 60 + min second 59
  let nanosecond := if second = 60 then nanosecond + 1000000000 else nanosecond
  if hour ≤ 23 ∧ minute ≤ 59 ∧ second ≤ 60 then
    if h : ofDay < 86400 ∧ nanosecond < if ofDay % 60 = 59 then 2000000000 else 1000000000 then
      some ⟨date, ofDay, nanosecond, h.1, h.2⟩
    else none
  else none

/-- The instant some minutes before, less than a day. -/
def minutesBefore (i : Instant) (minutes : Int) : Instant :=
  let second := (i.second : Int) - minutes * 60
  have keeps : ((second % 86400).toNat) % 60 = i.second % 60 := by omega
  { date := if second < 0 then i.date.previous else if 86400 ≤ second then i.date.next else i.date
    second := (second % 86400).toNat
    nanosecond := i.nanosecond
    second_lt := by omega
    nanosecond_lt := by rw [keeps]; exact i.nanosecond_lt }

/-- Reads an instant by RFC 3339: a date whose year has four digits, `T` or a space, a time, and an offset from
universal time. -/
def ofText? (s : String) : Option Instant := do
  let (year, cs) ← fixedNumber? 4 0 s.toList
  let '-' :: cs := cs | none
  let (month, cs) ← fixedNumber? 2 0 cs
  let '-' :: cs := cs | none
  let (day, cs) ← fixedNumber? 2 0 cs
  let separator :: cs := cs | none
  if separator ≠ 'T' ∧ separator ≠ 't' ∧ separator ≠ ' ' then none
  let (hour, cs) ← fixedNumber? 2 0 cs
  let ':' :: cs := cs | none
  let (minute, cs) ← fixedNumber? 2 0 cs
  let ':' :: cs := cs | none
  let (second, cs) ← fixedNumber? 2 0 cs
  let (nanosecond, cs) ← fraction? cs
  let offset ← offset? cs
  let date ← Date.of? year month day
  return (← of? date hour minute second nanosecond).minutesBefore offset

/-- A number with at least `width` digits. -/
def padded (width n : Nat) : List Char :=
  let digits := Nat.toDigits 10 n
  List.replicate (width - digits.length) '0' ++ digits

/-- A year: four digits, or a sign and at least four if it needs more or is negative. -/
def yearText (year : Int) : List Char :=
  if 0 ≤ year ∧ year ≤ 9999 then padded 4 year.toNat
  else (if year < 0 then '-' else '+') :: padded 4 year.natAbs

/-- A fraction of a second in as few groups of three digits as it needs. -/
def fractionText (nanosecond : Nat) : List Char :=
  if nanosecond = 0 then []
  else if nanosecond % 1000000 = 0 then '.' :: padded 3 (nanosecond / 1000000)
  else if nanosecond % 1000 = 0 then '.' :: padded 6 (nanosecond / 1000)
  else '.' :: padded 9 nanosecond

/-- The text of an instant with the given text for the offset zero. -/
def textWith (zeroOffset : String) (i : Instant) : String :=
  let leap := 1000000000 ≤ i.nanosecond
  let second := i.second % 60 + if leap then 1 else 0
  let nanosecond := if leap then i.nanosecond - 1000000000 else i.nanosecond
  String.ofList (yearText i.date.year ++ '-' :: (padded 2 i.date.month ++ '-' :: (padded 2 i.date.day ++
    'T' :: (padded 2 (i.second / 3600) ++ ':' :: (padded 2 (i.second / 60 % 60) ++ ':' :: (padded 2 second ++
    (fractionText nanosecond ++ zeroOffset.toList)))))))

/-- The text in which instants are stored. -/
def storedText (i : Instant) : String := i.textWith "+00:00"

/-- The text in which instants are shown. -/
def text (i : Instant) : String := i.textWith "Z"

end Instant
end ReplyGateway
