import ReplyGateway.Instant
import ReplyGateway.Text.Blank
import ReplyGateway.Text.Integer

namespace ReplyGateway.Instant

/-- The first and the last year of the calendar. -/
def firstYear : Int := -262143

def lastYear : Int := 262142

/-- Whether the calendar has a date. -/
def isInCalendar (d : Date) : Bool := firstYear ≤ d.year && d.year ≤ lastYear

/-- A number of at most `most` digits in front. -/
def shortNumber? (most : Nat) (cs : List Char) : Option (Nat × List Char) :=
  let number := (cs.take most).takeWhile Char.isDigit
  (digits? number).map fun n => (n, cs.drop number.length)

/-- A number of one or two digits after blanks. -/
def spacedNumber? (cs : List Char) : Option (Nat × List Char) := shortNumber? 2 (cs.dropWhile isBlank)

/-- What follows a mark after blanks. -/
def afterMark? (mark : Char) (cs : List Char) : Option (List Char) :=
  match cs.dropWhile isBlank with
  | c :: cs => if c = mark then some cs else none
  | [] => none

/-- A year after blanks: at most four digits, or a sign and any number of digits. -/
def spacedYear? (cs : List Char) : Option (Int × List Char) :=
  match cs.dropWhile isBlank with
  | '+' :: cs => (shortNumber? cs.length cs).map fun (n, rest) => ((n : Int), rest)
  | '-' :: cs => (shortNumber? cs.length cs).map fun (n, rest) => (-(n : Int), rest)
  | cs => (shortNumber? 4 cs).map fun (n, rest) => ((n : Int), rest)

/-- How many minutes a local time is ahead of universal time: a sign, and hours and minutes of two digits
each, which colons and blanks may divide. -/
def spacedOffset? (cs : List Char) : Option (Int × List Char) :=
  let minutes (sign : Int) (cs : List Char) : Option (Int × List Char) := do
    let (hours, cs) ← fixedNumber? 2 0 cs
    let (minutes, cs) ← fixedNumber? 2 0 (cs.dropWhile fun c => c = ':' || isBlank c)
    if hours ≤ 23 ∧ minutes ≤ 59 then some (sign * ((hours * 60 + minutes : Nat) : Int), cs) else none
  match cs with
  | 'Z' :: cs | 'z' :: cs => some (0, cs)
  | '+' :: cs => minutes 1 cs
  | '-' :: cs | '\u2212' :: cs => minutes (-1) cs
  | cs => if (cs.take 3).map Char.toUpper = ['U', 'T', 'C'] then some (0, cs.drop 3) else none

/-- Reads an instant that the calendar has, as it is written by hand: a date, `T` or a space, a time, and an offset
from universal time. A number may lack the zeros in front, blanks may stand before a number, before a mark between two
numbers and around the offset, and universal time may go by its name. -/
def ofLenientText? (s : String) : Option Instant := do
  let (year, cs) ← spacedYear? s.toList
  let (month, cs) ← spacedNumber? (← afterMark? '-' cs)
  let (day, cs) ← spacedNumber? (← afterMark? '-' cs)
  let separator :: cs := cs | none
  if separator ≠ 'T' ∧ separator ≠ 't' ∧ separator ≠ ' ' then none
  let (hour, cs) ← spacedNumber? cs
  let (minute, cs) ← spacedNumber? (← afterMark? ':' cs)
  let (second, cs) ← spacedNumber? (← afterMark? ':' cs)
  let (nanosecond, cs) ← fraction? cs
  let (offset, cs) ← spacedOffset? (cs.dropWhile isBlank)
  if !cs.all isBlank then none
  let date ← Date.of? year month day
  let instant := (← of? date hour minute second nanosecond).minutesBefore offset
  if isInCalendar date && isInCalendar instant.date then some instant else none

end ReplyGateway.Instant
